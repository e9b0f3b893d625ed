/-
# Setting up the log again and again

## What is proved

The log can be set up any number of times, whatever its handlers were before.  A call that is carried out leaves one
handler, in the layout that this call and its environment ask for, and the level that is meant: the number itself, the level
that the word in capitals names, or `INFO`.  Two words do not fall back to `INFO`: in capitals they are the names of
constants of the log that are no levels (`Wanted.Refused`).  Exactly the calls with one of these are refused, and they leave
the root as the latest call before that was carried out has made it.

## How

What a call does depends on the root in nothing: its handlers are taken away one by one until none is left
(`foldl_removeHandler`).  So each call either makes a root of its own or keeps the one there is, and after many of them the
latest one that made a root is left.
-/
import SchemaScript.Log.Setup
import SchemaScript.Proofs.Latest

namespace SchemaScript.Log

open Text (ofString)

/-! ## Levels that are asked for -/

/-- A level as it is asked for. -/
inductive Wanted where
  | number (n : Int)
  | word (t : Text)
deriving DecidableEq, Repr

namespace Wanted

/-- The value that is handed over. -/
def value : Wanted → Value
  | number n => .int n
  | word t => .text t

/-- The level that is meant. -/
def Means : Wanted → Int → Prop
  | number n, level => level = n
  | word t, level =>
    (∃ l ∈ Level.named, t.upperForAscii = ofString l.1 ∧ level = l.2) ∨
      (∀ l ∈ Level.named, t.upperForAscii ≠ ofString l.1) ∧ level = Level.info

/-- The word is, in capitals, one of the two names that constants of another kind have. -/
def Refused : Wanted → Level.Fault → Prop
  | number _, _ => False
  | word t, f =>
    t.upperForAscii = ofString "BASIC_FORMAT" ∧ f = .unknownName (Text.quoted Level.basicLayout) ∨
      t.upperForAscii = ofString "_STYLES" ∧ f = .notLevel Level.layoutTable

/-- The name of a level is not refused. -/
theorem not_refused_of_named {t : Text} (h : ∃ l ∈ Level.named, t.upperForAscii = ofString l.1) (f : Level.Fault) :
    ¬ (word t).Refused f := by
  obtain ⟨l, hl, hname⟩ := h
  have hother : ∀ l ∈ Level.named, ofString l.1 ≠ ofString "BASIC_FORMAT" ∧ ofString l.1 ≠ ofString "_STYLES" := by
    decide
  rintro (⟨hlayout, _⟩ | ⟨htable, _⟩)
  · exact (hother l hl).1 (hname.symm.trans hlayout)
  · exact (hother l hl).2 (hname.symm.trans htable)

end Wanted

namespace Level

theorem mem_named_of_ofName? {name : String} {n : Int} (h : ofName? name = some n) : (name, n) ∈ named := by
  obtain ⟨before, rest, hnamed, _⟩ := List.lookup_eq_some_iff.1 h
  rw [hnamed]
  exact List.mem_append_right _ List.mem_cons_self

theorem ne_of_ofName?_eq_none {name : String} (h : ofName? name = none) : ∀ l ∈ named, name ≠ l.1 := by
  intro l hl heq
  have hne := List.lookup_eq_none_iff.1 h l hl
  simp [heq] at hne

/-- A word that is not refused gives the level that it means. -/
theorem means_getD (t : Text) : (Wanted.word t).Means ((t.upperForAscii.string?.bind ofName?).getD info) := by
  cases hcapitals : t.upperForAscii.string? with
  | none =>
      refine Or.inr ⟨fun l _ heq => ?_, rfl⟩
      rw [heq, Text.string?_ofString] at hcapitals
      cases hcapitals
  | some name =>
      have hname := Text.string?_eq_some_iff.1 hcapitals
      show Wanted.Means (.word t) ((ofName? name).getD info)
      cases hlevel : ofName? name with
      | some n => exact Or.inl ⟨(name, n), mem_named_of_ofName? hlevel, hname, rfl⟩
      | none =>
          refine Or.inr ⟨fun l hl heq => ?_, rfl⟩
          exact ne_of_ofName?_eq_none hlevel l hl (Text.ofString_inj.1 (hname.symm.trans heq))

/-- All that a level that is asked for can come to. -/
theorem threshold_value (w : Wanted) :
    (∃ f, w.Refused f ∧ threshold w.value = .error f) ∨
      (∀ f, ¬ w.Refused f) ∧ ∃ n, w.Means n ∧ threshold w.value = .ok n := by
  cases w with
  | number n => exact Or.inr ⟨fun _ => id, n, rfl, rfl⟩
  | word t =>
      by_cases hlayout : t.upperForAscii = ofString "BASIC_FORMAT"
      · refine Or.inl ⟨_, Or.inl ⟨hlayout, rfl⟩, ?_⟩
        simp only [threshold, Wanted.value, hlayout, Text.string?_ofString]
      by_cases htable : t.upperForAscii = ofString "_STYLES"
      · refine Or.inl ⟨_, Or.inr ⟨htable, rfl⟩, ?_⟩
        simp only [threshold, Wanted.value, htable, Text.string?_ofString]
      refine Or.inr ⟨?_, _, means_getD t, ?_⟩
      · rintro f (⟨h, _⟩ | ⟨h, _⟩)
        · exact hlayout h
        · exact htable h
      · simp only [threshold, Wanted.value]
        split
        · next h => exact absurd (Text.string?_eq_some_iff.1 h) hlayout
        · next h => exact absurd (Text.string?_eq_some_iff.1 h) htable
        · rfl

end Level

/-! ## One call -/

namespace Root

variable {root : Root}

theorem foldl_removeHandler {handlers : List Handler} (h : root.handlers = handlers) :
    handlers.foldl removeHandler root = ⟨root.threshold, []⟩ := by
  induction handlers generalizing root with
  | nil => rw [List.foldl_nil, ← h]
  | cons handler rest ih =>
      have hrest : (root.removeHandler handler).handlers = rest := by
        rw [removeHandler, h, List.erase_cons_head]
      rw [List.foldl_cons, ih hrest]
      rfl

theorem configure_eq_map (root : Root) (level : Value) (json : Bool) (word : Option Text) :
    root.configure level json word =
      (Level.threshold level).map fun n => ⟨n, [.write (Layout.choose json word)]⟩ := by
  cases hlevel : Level.threshold level with
  | error f => simp only [configure, hlevel]; rfl
  | ok n =>
      have hcleared : root.handlers.foldl removeHandler { root with threshold := n } = ⟨n, []⟩ :=
        foldl_removeHandler rfl
      simp only [configure, hlevel]
      exact congrArg (fun r => Except.ok (addHandler r _)) hcleared

end Root

theorem Layout.choose_eq_json_iff {json : Bool} {word : Option Text} :
    Layout.choose json word = .json ↔ json = true ∨ Text.lower (word.getD []) = ofString "json" := by
  cases json with
  | true => simp [Layout.choose]
  | false => simp [Layout.choose, Layout.asksForJson]

/-- A call that sets the log up, with the environment's word for the layout at that time. -/
structure Setup where
  wanted : Wanted
  json : Bool
  word : Option Text

namespace Setup

variable {s : Setup} {root : Root}

/-- What the call makes of the root, unless it is refused. -/
def carryOut (s : Setup) (root : Root) : Except Level.Fault Root := root.configure s.wanted.value s.json s.word

/-- The call is refused. -/
def IsRefused (s : Setup) : Prop := ∃ f, s.wanted.Refused f

/-- The root is as the call wants it. -/
structure IsDone (s : Setup) (root : Root) : Prop where
  handlers : ∃ layout, root.handlers = [.write layout] ∧
    (layout = .json ↔ s.json = true ∨ Text.lower (s.word.getD []) = ofString "json")
  threshold : s.wanted.Means root.threshold

theorem carryOut_of_isRefused (h : s.IsRefused) (root : Root) :
    ∃ f, s.wanted.Refused f ∧ s.carryOut root = .error f := by
  obtain ⟨f, hf⟩ := h
  obtain ⟨f', hf', hthreshold⟩ | ⟨hnot, _⟩ := Level.threshold_value s.wanted
  · refine ⟨f', hf', ?_⟩
    rw [carryOut, Root.configure_eq_map, hthreshold]
    rfl
  · exact absurd hf (hnot f)

theorem carryOut_of_not_isRefused (h : ¬ s.IsRefused) (root : Root) :
    ∃ root', s.carryOut root = .ok root' ∧ s.IsDone root' := by
  obtain ⟨f, hf, _⟩ | ⟨_, n, hmeans, hthreshold⟩ := Level.threshold_value s.wanted
  · exact absurd ⟨f, hf⟩ h
  · refine ⟨⟨n, [.write (Layout.choose s.json s.word)]⟩, ?_, ⟨_, rfl, Layout.choose_eq_json_iff⟩, hmeans⟩
    rw [carryOut, Root.configure_eq_map, hthreshold]
    rfl

end Setup

/-! ## Many calls -/

namespace Root

/-- The root after a call: a refused one leaves it as it is. -/
def step (root : Root) (s : Setup) : Root := ((s.carryOut root).toOption).getD root

/-- The root after some calls. -/
def after (root : Root) (calls : List Setup) : Root := calls.foldl step root

variable {root : Root} {s : Setup}

theorem step_of_isRefused (h : s.IsRefused) : root.step s = root := by
  obtain ⟨f, _, hcall⟩ := Setup.carryOut_of_isRefused h root
  rw [step, hcall]
  rfl

theorem carryOut_eq_step (h : ¬ s.IsRefused) : s.carryOut root = .ok (root.step s) ∧ s.IsDone (root.step s) := by
  obtain ⟨root', hcall, hdone⟩ := Setup.carryOut_of_not_isRefused h root
  have hstep : root.step s = root' := by
    rw [step, hcall]
    rfl
  rw [hstep]
  exact ⟨hcall, hdone⟩

theorem after_concat (root : Root) (calls : List Setup) (s : Setup) :
    root.after (calls ++ [s]) = (root.after calls).step s := by
  rw [after, List.foldl_append]
  rfl

/-- The latest call that was carried out, if there is one, has made the root what it is. -/
theorem after_eq_or_isDone (root : Root) (calls : List Setup) :
    ((∀ c ∈ calls, c.IsRefused) ∧ root.after calls = root) ∨
      ∃ before c later, IsLatest (fun c => ¬ Setup.IsRefused c) before c later calls ∧ c.IsDone (root.after calls) := by
  have hkeep (root : Root) (c : Setup) (h : ¬ ¬ c.IsRefused) : id (root.step c) = id root :=
    step_of_isRefused (not_not.1 h)
  have hmake (root : Root) (c : Setup) (h : ¬ c.IsRefused) : c.IsDone (root.step c) := (carryOut_eq_step h).2
  obtain ⟨hall, hroot⟩ | hlatest := foldl_view_eq_or_latest hkeep hmake root calls
  · exact Or.inl ⟨fun c hc => not_not.1 (hall c hc), hroot⟩
  · exact Or.inr hlatest

end Root

/-- After any calls on any root, the next call is refused exactly if its word is one of two, and then it changes nothing;
otherwise it leaves one handler and the level that is meant.  In between, the root is as the latest call that was carried out
has left it. -/
theorem setups_leave_one_handler (root : Root) (calls : List Setup) (s : Setup) :
    (s.IsRefused → ∃ f, s.wanted.Refused f ∧ s.carryOut (root.after calls) = .error f ∧
      root.after (calls ++ [s]) = root.after calls) ∧
    (¬ s.IsRefused → s.carryOut (root.after calls) = .ok (root.after (calls ++ [s])) ∧
      s.IsDone (root.after (calls ++ [s]))) ∧
    ((∀ c ∈ calls, c.IsRefused) → root.after calls = root) ∧
    ((∃ c ∈ calls, ¬ c.IsRefused) → ∃ before c later,
      IsLatest (fun c => ¬ Setup.IsRefused c) before c later calls ∧ c.IsDone (root.after calls)) := by
  rw [Root.after_concat]
  refine ⟨fun h => ?_, Root.carryOut_eq_step, fun h => ?_, fun ⟨c, hc, hcarried⟩ => ?_⟩
  · obtain ⟨f, hf, hcall⟩ := Setup.carryOut_of_isRefused h (root.after calls)
    exact ⟨f, hf, hcall, Root.step_of_isRefused h⟩
  · obtain ⟨_, hroot⟩ | ⟨before, c, later, ⟨rfl, hc, _⟩, _⟩ := root.after_eq_or_isDone calls
    · exact hroot
    · exact absurd (h c (by simp)) hc
  · obtain ⟨hall, _⟩ | hdone := root.after_eq_or_isDone calls
    · exact absurd (hall c hc) hcarried
    · exact hdone

/-- The word of a layout between two levels: its call changes nothing, the next one counts. -/
theorem debug_follows_basic_format :
    let warning : Setup := ⟨.number 30, true, none⟩
    let layout : Setup := ⟨.word (ofString "basic_format"), true, none⟩
    let details : Setup := ⟨.word (ofString "Debug"), false, some (ofString "human")⟩
    Root.capturing.after [warning, layout] = Root.capturing.after [warning] ∧
      (∃ before c later, IsLatest (fun c => ¬ Setup.IsRefused c) before c later [warning, layout] ∧
        c.IsDone (Root.capturing.after [warning, layout])) ∧
      details.IsDone (Root.capturing.after [warning, layout, details]) := by
  intro warning layout details
  have hlayout : layout.IsRefused := ⟨_, Or.inl ⟨by decide, rfl⟩⟩
  have hwarning : ¬ warning.IsRefused := fun ⟨_, h⟩ => h
  have hdetails : ¬ details.IsRefused := by
    rintro ⟨f, ⟨h, _⟩ | ⟨h, _⟩⟩
    · exact absurd h (by decide)
    · exact absurd h (by decide)
  obtain ⟨_, _, _, hkept⟩ := (setups_leave_one_handler .capturing [warning] layout).1 hlayout
  obtain ⟨_, hdone, _, hlatest⟩ := setups_leave_one_handler .capturing [warning, layout] details
  exact ⟨hkept, hlatest ⟨warning, List.mem_cons_self, hwarning⟩, (hdone hdetails).2⟩

/-- The word `basic_format` names no level, but a call that asks for it is refused. -/
theorem basic_format_is_refused :
    (∀ l ∈ Level.named, Text.upperForAscii (ofString "basic_format") ≠ ofString l.1) ∧
      (⟨.word (ofString "basic_format"), false, none⟩ : Setup).carryOut .capturing =
        .error (.unknownName "'%(levelname)s:%(name)s:%(message)s'") := by
  exact ⟨by decide, rfl⟩

end SchemaScript.Log
