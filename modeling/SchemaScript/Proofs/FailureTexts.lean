/-
# The texts of failures

## What is proved

The text of a failure names its class: a line of it begins with the class, which is all of this line or is followed by a
colon (`Failure.text_names_class`).  The class is the given one, except that a failure of the operating system may be
written under another class of such failures.  The mark below a line of a source is as wide as the columns that it marks,
and stands below them (`Place.mark?_eq_some`).

## How

Three kinds of classes are told apart, as `Failure.ofClass` does.  Only a failure to read a source has lines in front of
the one that names the class, and only one of the operating system is written under another class than the given one.
-/
import SchemaScript.Log.Failure
import SchemaScript.Proofs.Steps

namespace SchemaScript.Log

open Text (ofString)

/-- A text names a class where a line of it is the class, or begins with the class and a colon. -/
def NamesClass (t : Text) (name : String) : Prop :=
  ∃ before after, t = before ++ (ofString name ++ after) ∧
    (before = [] ∨ ∃ lines, before = lines ++ ofString "\n") ∧
    (after = [] ∨ ∃ rest, after = ofString ": " ++ rest)

/-! ## Failures of the operating system -/

namespace SystemFailure

variable {name written : String} {arguments : List Value} {t : Text}

theorem isClass_general : isClass general = true := rfl

theorem isClass_canonical (h : isClass name = true) : isClass (canonical name) = true := by
  rw [canonical]
  split
  · exact isClass_general
  · exact h

theorem isClass_of_lookup {n : Int} (h : classes.lookup n = some name) : isClass name = true := by
  obtain ⟨before, after, hclasses, -⟩ := List.lookup_eq_some_iff.mp h
  have hany : classes.any (·.2 == name) = true := by
    rw [List.any_eq_true]
    exact ⟨(n, name), hclasses ▸ List.mem_append_right _ List.mem_cons_self, beq_self_eq_true name⟩
  rw [isClass, hany, Bool.or_true]

theorem isClass_classFor (h : isClass name = true) (number : Value) : isClass (classFor name number) = true := by
  rw [classFor]
  split
  · cases hfound : number.whole?.bind fun n => classes.lookup n with
    | none => exact isClass_general
    | some other =>
        obtain ⟨n, -, hlookup⟩ := Option.bind_eq_some_iff.mp hfound
        exact isClass_of_lookup hlookup
  · exact h

theorem isClass_of_numbered {number text file other : Value} (hname : isClass name = true)
    (h : numbered name number text file other = .ok (written, t)) : isClass written = true := by
  rw [numbered] at h
  split at h
  all_goals
    obtain ⟨hidden, -, hresult⟩ := bind_eq_ok_iff.mp h
    cases hresult
    exact isClass_classFor hname number

/-- A failure of the operating system is written under a class of such failures. -/
theorem isClass_of_ofArguments (hname : isClass name = true) (h : ofArguments name arguments = .ok (written, t)) :
    isClass written = true := by
  unfold ofArguments at h
  split at h
  case h_5 =>
    cases h
    exact isClass_canonical hname
  all_goals exact isClass_of_numbered hname h

end SystemFailure

/-! ## Failures to read a source -/

/-- The last line stands behind all the other ones. -/
theorem joined_append_singleton (lines : List Text) (last : Text) :
    ∃ before, Text.joined (ofString "\n") (lines ++ [last]) = before ++ last ∧
      (before = [] ∨ ∃ shown, before = shown ++ ofString "\n") := by
  induction lines with
  | nil => exact ⟨[], List.intercalate_singleton, .inl rfl⟩
  | cons line lines ih =>
      obtain ⟨before, hjoined, hbefore⟩ := ih
      have hcons : Text.joined (ofString "\n") (line :: lines ++ [last]) =
          line ++ ofString "\n" ++ Text.joined (ofString "\n") (lines ++ [last]) := by
        cases lines with
        | nil => exact List.intercalate_cons_cons
        | cons next lines => exact List.intercalate_cons_cons
      refine ⟨line ++ ofString "\n" ++ before, by rw [hcons, hjoined, ← List.append_assoc], .inr ?_⟩
      rcases hbefore with rfl | ⟨shown, rfl⟩
      · exact ⟨line, List.append_nil _⟩
      · exact ⟨line ++ ofString "\n" ++ shown, (List.append_assoc _ _ _).symm⟩

/-- The mark below a line spans the columns from the start to the stop; in front of it are blanks only, one for each character
of the line that stands there. -/
theorem Place.mark?_eq_some {start stop : Value} {indent : Nat} {line mark : Text}
    (h : mark? start stop indent line = .ok (some mark)) :
    ∃ n m before, start.number? = some (.whole n) ∧ stopColumn start stop = .ok (.whole m) ∧ indent < n ∧
      mark = before ++ List.replicate (m - n).toNat (.char '^') ∧ (∀ p ∈ before, p.is Text.isBlank = true) ∧
      before.length = min (n - 1 - indent).toNat line.length := by
  rw [mark?] at h
  obtain ⟨last, hlast, h⟩ := bind_eq_ok_iff.mp h
  obtain ⟨first, hfirst, h⟩ := bind_eq_ok_iff.mp h
  have hstart : start.number? = some first := by
    rw [needColumn] at hfirst
    split at hfirst
    case h_1 hnumber => rw [hnumber, Except.ok.inj hfirst]
    case h_2 => cases hfirst
  -- Only whole columns are marked, and only those that stand behind what the line lacks at its left.
  cases first with
  | real x =>
      dsimp only at h
      split at h <;> cases h
  | whole n =>
      by_cases hn : n < indent + 1
      · simp only [hn, if_true] at h
        cases h
      · cases last with
        | real x =>
            simp only [hn, if_false] at h
            cases h
        | whole m =>
            simp only [hn, if_false] at h
            split_ifs at h with hhuge hwide hwide
            · cases h
            · cases h
            · cases h
            · refine ⟨n, m, _, hstart, hlast, by omega, (Option.some.inj (Except.ok.inj h)).symm, ?_, ?_⟩
              · intro p hp
                obtain ⟨q, -, rfl⟩ := List.mem_map.mp hp
                split
                · assumption
                · exact Text.isBlank_of_isWhitespace (c := ' ') rfl
              · rw [List.length_map, List.length_take]

/-- The last line of a failure to read a source names its class. -/
theorem SourceFailure.namesClass {f : SourceFailure} {t : Text} (h : f.text = .ok t) : NamesClass t f.name := by
  obtain ⟨lines, -, htext⟩ := bind_eq_ok_iff.mp h
  obtain ⟨before, hjoined, hbefore⟩ := joined_append_singleton (f.place.heading ++ lines)
    (ofString f.name ++ ofString ": " ++
      (if f.reason.isPresent then f.reason.plain else ofString "<no detail available>") ++ f.place.suffix)
  have ht := (Except.ok.inj htext).symm.trans hjoined
  rw [List.append_assoc, List.append_assoc] at ht
  exact ⟨before, _, ht, hbefore, .inr ⟨_, rfl⟩⟩

theorem SourceFailure.name_of_ofArguments {name : String} {arguments : List Value} {f : SourceFailure}
    (h : ofArguments name arguments = .ok f) : f.name = name := by
  unfold ofArguments at h
  split at h
  case h_2 =>
    obtain ⟨place, -, hf⟩ := bind_eq_ok_iff.mp h
    cases hf
    rfl
  all_goals
    cases h
    rfl

/-! ## Classes -/

namespace Failure

/-- The class that a failure is written under. -/
def written : Failure → String
  | .plain name _ => name
  | .source failure => failure.name

theorem namesClass {f : Failure} {t : Text} (h : f.text = .ok t) : NamesClass t f.written := by
  cases f with
  | source failure => exact SourceFailure.namesClass h
  | plain name shown =>
      cases h
      split
      · exact ⟨[], [], (List.append_nil _).symm, .inl rfl, .inl rfl⟩
      · exact ⟨[], ofString ": " ++ shown, List.append_assoc _ _ _, .inl rfl, .inr ⟨shown, rfl⟩⟩

/-- A failure is written under its class; one of the operating system may be written under another such class. -/
theorem written_of_ofClass {name : String} {arguments : List Value} {f : Failure}
    (h : ofClass name arguments = .ok f) :
    f.written = name ∨ SystemFailure.isClass name = true ∧ SystemFailure.isClass f.written = true := by
  unfold ofClass at h
  split_ifs at h with hsystem hsource hgroup hencode hdecode htranslate hkey hplain
  · obtain ⟨⟨first, shown⟩, hfirst, hf⟩ := bind_eq_ok_iff.mp h
    cases hf
    exact .inr ⟨hsystem, SystemFailure.isClass_of_ofArguments hsystem hfirst⟩
  · obtain ⟨failure, hfailure, hf⟩ := bind_eq_ok_iff.mp h
    cases hf
    exact .inl (SourceFailure.name_of_ofArguments hfailure)
  -- A failure of a code has a text only if its arguments have the right shapes.
  · obtain ⟨shown, -, hf⟩ := bind_eq_ok_iff.mp h
    cases hf
    exact .inl rfl
  · obtain ⟨shown, -, hf⟩ := bind_eq_ok_iff.mp h
    cases hf
    exact .inl rfl
  · cases h
    exact .inl rfl
  · cases h
    exact .inl rfl

/-- The text of a failure names the class of the failure. -/
theorem text_names_class {name : Text} {arguments : List Value} {f : Failure} {t : Text}
    (hf : ofArguments name arguments = .ok f) (ht : f.text = .ok t) :
    ∃ given written, name = ofString given ∧ NamesClass t written ∧
      (written = given ∨ SystemFailure.isClass given = true ∧ SystemFailure.isClass written = true) := by
  rw [ofArguments] at hf
  cases hgiven : name.string? with
  | none =>
      rw [hgiven] at hf
      cases hf
  | some given =>
      rw [hgiven] at hf
      exact ⟨given, f.written, Text.string?_eq_some_iff.mp hgiven, namesClass ht, written_of_ofClass hf⟩

end Failure

end SchemaScript.Log
