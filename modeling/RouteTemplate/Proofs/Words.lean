import RouteTemplate.Proofs.ExpandCommand

/-!
What a command line is read as. Each text that a command is given is a word or a part of one, so what each
way of adding to what is given keeps is kept by reading all words.
-/

namespace RouteTemplate.CommandLine

/-! ### Texts of words -/

namespace Word

theorem eq_of_ofText_operand {w s : List Char} (h : ofText w = .operand s) : s = w := by
  unfold ofText at h
  split at h
  · cases h
  · dsimp only at h
    unfold ofLong at h
    split at h <;> cases h
  · unfold ofShort at h
    split at h <;> cases h
  · cases h
    rfl

theorem subset_of_attachedToShort {r value : List Char} (h : attachedToShort r = some value) :
    value ⊆ r := by
  unfold attachedToShort at h
  split at h <;> cases h
  · exact List.subset_cons_self _ _
  · exact List.Subset.refl _

theorem subset_of_splitAtEquals {s name value : List Char}
    (h : splitAtEquals s = (name, some value)) : name ⊆ s ∧ value ⊆ s := by
  rw [eq_of_splitAtEquals h]
  exact ⟨List.subset_append_left _ _,
    List.subset_append_of_subset_right _ (List.subset_cons_self _ _)⟩

theorem attached_of_ofLong {name : String} {attached : Option (List Char)} {value : List Char}
    {s : Setting} (h : ofLong name attached = .setting s (some value)) : attached = some value := by
  unfold ofLong at h
  split at h
  case h_1 | h_2 | h_3 =>
    injection h
  all_goals cases h

theorem attached_of_ofShort {letter : Char} {r value : List Char} {s : Setting}
    (h : ofShort letter r = .setting s (some value)) : attachedToShort r = some value := by
  unfold ofShort at h
  split at h
  case h_1 | h_2 | h_3 =>
    injection h
  all_goals cases h

theorem subset_of_ofText_setting {w value : List Char} {s : Setting}
    (h : ofText w = .setting s (some value)) : value ⊆ w := by
  unfold ofText at h
  split at h
  · cases h
  next r _ =>
    generalize hsplit : splitAtEquals r = found at h
    obtain ⟨name, attached⟩ := found
    cases attached_of_ofLong h
    have hvalue := (subset_of_splitAtEquals hsplit).2
    exact fun d hd => List.mem_cons_of_mem _ (List.mem_cons_of_mem _ (hvalue hd))
  next letter r _ _ =>
    have hvalue := subset_of_attachedToShort (attached_of_ofShort h)
    exact fun d hd => List.mem_cons_of_mem _ (List.mem_cons_of_mem _ (hvalue hd))
  · cases h

end Word

/-! ### Reading -/

namespace Given

/-- Adding to what is given keeps a property, if all that is added is one of some words or a part of it. -/
structure Keeps (P : Given → Prop) (words : List (List Char)) : Prop where
  operands : ∀ g operands, operands ⊆ words → P g → P { g with operands := g.operands ++ operands }
  turn : ∀ g s g', g.turn s = some g' → P g → P g'
  set : ∀ g s w value g', w ∈ words → value ⊆ w → g.set value s = some g' → P g → P g'

variable {P : Given → Prop} {g g' : Given} {w : List Char} {words : List (List Char)}

theorem Keeps.tail (h : Keeps P (w :: words)) : Keeps P words where
  operands g operands hsub := h.operands g operands (List.subset_cons_of_subset w hsub)
  turn := h.turn
  set g s v value g' hv := h.set g s v value g' (List.mem_cons_of_mem w hv)

theorem Keeps.read (hkeeps : Keeps P words) (hg : P g) (h : g.read words = some g') : P g' := by
  fun_induction Given.read g words with
  | case1 g =>
    cases h
    exact hg
  | case2 g w words s hw ih =>
    cases Word.eq_of_ofText_operand hw
    exact ih hkeeps.tail (hkeeps.operands g [_] (by simp) hg) h
  | case3 g w words hw =>
    cases h
    exact hkeeps.tail.operands g words (List.Subset.refl _) hg
  | case4 g w words s hw ih =>
    obtain ⟨turned, hturned, h⟩ := Option.bind_eq_some_iff.1 h
    exact ih turned hkeeps.tail (hkeeps.turn g s turned hturned hg) h
  | case5 g w words s value hw ih =>
    obtain ⟨added, hadded, h⟩ := Option.bind_eq_some_iff.1 h
    have hvalue := Word.subset_of_ofText_setting hw
    exact ih added hkeeps.tail (hkeeps.set g s w value added List.mem_cons_self hvalue hadded hg) h
  | case7 g w s hw v words value hv ih =>
    cases Word.eq_of_ofText_operand hv
    obtain ⟨added, hadded, h⟩ := Option.bind_eq_some_iff.1 h
    exact ih added hkeeps.tail.tail
      (hkeeps.tail.set g s _ _ added List.mem_cons_self (List.Subset.refl _) hadded hg) h
  | case6 | case8 | case9 | case10 => cases h

end Given

/-- A command that is to be run comes from what is given after its name, and its file was named there,
before it or nowhere. -/
theorem Request.exists_given_of_read {config : Option (List Char)} {words : List (List Char)}
    {file : List Char} {command : Command}
    (h : Request.read config words = some (.run file command)) :
    ∃ first given name g, given ⊆ words ∧ Given.nothing.read given = some g ∧
      Command.ofGiven name g = some command ∧
      file = (g.config.or first).getD SettingsFile.defaultName ∧
      (first = config ∨ ∃ value, value ≠ [] ∧ first = some value) := by
  fun_induction Request.read config words with
  | case3 config w words name hw =>
    obtain ⟨g, hg, h⟩ := Option.bind_eq_some_iff.1 h
    obtain ⟨command', hcommand, h⟩ := Option.bind_eq_some_iff.1 h
    cases h
    exact ⟨config, words, name, g, List.subset_cons_self _ _, hg, hcommand, rfl, .inl rfl⟩
  | case5 config w words value hw hvalue ih =>
    obtain ⟨first, given, name, g, hsub, hg, hcommand, hfile, hfirst⟩ := ih h
    refine ⟨first, given, name, g, List.subset_cons_of_subset _ hsub, hg, hcommand, hfile, .inr ?_⟩
    rcases hfirst with rfl | hfirst
    · exact ⟨value, fun hempty => hvalue (by simp [hempty]), rfl⟩
    · exact hfirst
  | case8 config w hw v words value hv hvalue ih =>
    obtain ⟨first, given, name, g, hsub, hg, hcommand, hfile, hfirst⟩ := ih h
    have hsub' := List.subset_cons_of_subset w (List.subset_cons_of_subset v hsub)
    refine ⟨first, given, name, g, hsub', hg, hcommand, hfile, .inr ?_⟩
    rcases hfirst with rfl | hfirst
    · exact ⟨value, fun hempty => hvalue (by simp [hempty]), rfl⟩
    · exact hfirst
  | case2 => cases h
  | case1 | case4 | case6 | case7 | case9 | case10 => cases h

end RouteTemplate.CommandLine
