import RouteTemplate.Expander
import RouteTemplate.Proofs.Grammar

/-!
Expanding a template as a rewriting of its characters from left to right, by the grammar of
placeholders alone. At each place a placeholder that begins there is replaced by its group, and
rewriting goes on behind it; any other character is copied. What is put in is not read again.
-/

namespace RouteTemplate

/-- The fragment that a placeholder stands for. -/
inductive Fills (table : FragmentTable) (default : List Char) : Placeholder → List Char → Prop where
  | patternEntry {name pattern fragment : List Char} (h : table.get? pattern = some fragment) :
      Fills table default ⟨name, some pattern⟩ fragment
  | patternItself {name pattern : List Char} (h : table.get? pattern = none) :
      Fills table default ⟨name, some pattern⟩ pattern
  | nameEntry {name fragment : List Char} (h : table.get? name = some fragment) :
      Fills table default ⟨name, none⟩ fragment
  | unknownName {name : List Char} (h : table.get? name = none) :
      Fills table default ⟨name, none⟩ default

/-- The rewriting of a text. A placeholder is taken wherever the grammar has one. -/
inductive Rewrites (table : FragmentTable) (default : List Char) :
    List Char → List Char → Prop where
  | nil : Rewrites table default [] []
  | placeholder {p : Placeholder} {fragment rest body : List Char} (hp : p.WellFormed)
      (hf : Fills table default p fragment) (h : Rewrites table default rest body) :
      Rewrites table default (p.text ++ rest)
        ("(?P<".toList ++ p.name ++ ">".toList ++ fragment ++ ")".toList ++ body)
  | copy {c : Char} {rest body : List Char}
      (hc : ∀ p : Placeholder, p.WellFormed → ¬p.text <+: c :: rest)
      (h : Rewrites table default rest body) :
      Rewrites table default (c :: rest) (c :: body)

namespace Settings

/-- What goes before a body. -/
def opening (s : Settings) (body : List Char) : List Char :=
  if s.anchor ∧ ¬['^'] <+: body then ['^'] else []

/-- What goes between an opened pattern and its end; the empty template gets nothing there. -/
def separator (s : Settings) (template pattern : List Char) : List Char :=
  if s.appendSlash ∧ template ≠ [] ∧ ¬['$'] <:+ pattern ∧ ¬['/'] <:+ pattern then ['/'] else []

/-- What goes after a pattern with its separator. -/
def closing (s : Settings) (pattern : List Char) : List Char :=
  if s.terminate ∧ ¬['$'] <:+ pattern then ['$'] else []

/-- The three steps on a body, each on the outcome of the one before it. -/
def dress (s : Settings) (template body : List Char) : List Char :=
  let opened := s.opening body ++ body
  let separated := opened ++ s.separator template opened
  separated ++ s.closing separated

theorem singleton_prefix_iff {c : Char} {s : List Char} : [c] <+: s ↔ s.head? = some c := by
  cases s with
  | nil => simp
  | cons d s => simp [List.cons_prefix_cons, eq_comm]

theorem singleton_suffix_iff {c : Char} {s : List Char} : [c] <:+ s ↔ s.getLast? = some c := by
  rw [← List.reverse_prefix, List.reverse_singleton, singleton_prefix_iff, List.head?_reverse]

theorem finish_eq_dress (s : Settings) (template body : List Char) :
    s.finish template body = s.dress template body := by
  have hopen : s.opening body ++ body = if s.anchor then RouteTemplate.anchor body else body := by
    simp only [opening, RouteTemplate.anchor, singleton_prefix_iff]
    grind
  have hsep (pattern : List Char) : pattern ++ s.separator template pattern =
      if s.appendSlash && !template.isEmpty then RouteTemplate.appendSlash pattern else pattern := by
    simp only [separator, RouteTemplate.appendSlash, singleton_suffix_iff]
    grind
  have hclose (pattern : List Char) : pattern ++ s.closing pattern =
      if s.terminate then RouteTemplate.terminate pattern else pattern := by
    simp only [closing, RouteTemplate.terminate, singleton_suffix_iff]
    grind
  simp only [dress, finish]
  rw [hclose, hsep, hopen]

end Settings

/-! ### Substitution -/

theorem fills_iff {table : FragmentTable} {default fragment : List Char} {p : Placeholder} :
    Fills table default p fragment ↔ fragment = table.resolve p.name p.pattern default := by
  obtain ⟨name, pattern⟩ := p
  constructor
  · rintro (h | h | h | h) <;> simp [FragmentTable.resolve, h]
  · rintro rfl
    cases pattern with
    | none =>
      cases h : table.get? name with
      | none => simpa [FragmentTable.resolve, h] using .unknownName h
      | some fragment => simpa [FragmentTable.resolve, h] using .nameEntry h
    | some pattern =>
      cases h : table.get? pattern with
      | none => simpa [FragmentTable.resolve, h] using .patternItself h
      | some fragment => simpa [FragmentTable.resolve, h] using .patternEntry h

section

variable (table : FragmentTable) (default : List Char)

theorem flatMap_expand_ofText (text : List Char) :
    (Segment.ofText text).flatMap (Segment.expand table default) = text := by
  cases text with
  | nil => rfl
  | cons c text => simp [Segment.ofText, Segment.expand]

theorem substitute_nil : substitute table default [] = [] := by
  rw [substitute, segments_of_find?_eq_none rfl, flatMap_expand_ofText]

theorem substitute_of_find?_eq_none {t : List Char} (h : Placeholder.find? t = none) :
    substitute table default t = t := by
  rw [substitute, segments_of_find?_eq_none h, flatMap_expand_ofText]

theorem substitute_of_find? {t before rest : List Char} {p : Placeholder}
    (h : Placeholder.find? t = some (before, p, rest)) :
    substitute table default t = before ++
      (p.captureGroup (table.resolve p.name p.pattern default) ++
        substitute table default rest) := by
  rw [substitute, segments_of_find? h, List.flatMap_append, flatMap_expand_ofText,
    List.flatMap_cons]
  rfl

theorem substitute_text {p : Placeholder} (hp : p.WellFormed) (rest : List Char) :
    substitute table default (p.text ++ rest) =
      p.captureGroup (table.resolve p.name p.pattern default) ++ substitute table default rest :=
  substitute_of_find? table default (Placeholder.find?_text hp rest)

theorem substitute_cons {c : Char} {rest : List Char}
    (h : ∀ p : Placeholder, p.WellFormed → ¬p.text <+: c :: rest) :
    substitute table default (c :: rest) = c :: substitute table default rest := by
  have hfind := Placeholder.find?_of_read?_eq_none (Placeholder.read?_eq_none_iff.2 h)
  cases hrest : Placeholder.find? rest with
  | none =>
    rw [hrest, Option.map_none] at hfind
    rw [substitute, substitute, segments_of_find?_eq_none hfind, segments_of_find?_eq_none hrest,
      flatMap_expand_ofText, flatMap_expand_ofText]
  | some found =>
    obtain ⟨before, p, rest'⟩ := found
    rw [hrest, Option.map_some] at hfind
    rw [substitute_of_find? table default hfind, substitute_of_find? table default hrest,
      List.cons_append]

end

/-- Rewriting gives one outcome, and substitution computes it. -/
theorem rewrites_iff {table : FragmentTable} {default t body : List Char} :
    Rewrites table default t body ↔ body = substitute table default t := by
  constructor
  · intro h
    induction h with
    | nil => rw [substitute_nil]
    | placeholder hp hf _ ih =>
      rw [substitute_text _ _ hp, ih, fills_iff.1 hf]
      simp [Placeholder.captureGroup]
    | copy hc _ ih => rw [substitute_cons _ _ hc, ih]
  · rintro rfl
    induction hn : t.length using Nat.strongRecOn generalizing t with
    | ind n ih =>
      cases hread : Placeholder.read? t with
      | some found =>
        obtain ⟨p, rest⟩ := found
        obtain ⟨hp, rfl⟩ := Placeholder.read?_eq_some_iff.1 hread
        have hlt : rest.length < n := by
          have := List.length_pos_iff.2 p.text_ne_nil
          rw [← hn, List.length_append]; omega
        have h := Rewrites.placeholder hp (fills_iff.2 rfl) (ih _ hlt rfl)
        rw [substitute_text _ _ hp]
        simpa [Placeholder.captureGroup] using h
      | none =>
        have hnone := Placeholder.read?_eq_none_iff.1 hread
        cases t with
        | nil => rw [substitute_nil]; exact .nil
        | cons c rest =>
          rw [substitute_cons _ _ hnone]
          exact .copy hnone (ih rest.length (by rw [← hn]; exact Nat.lt_succ_self _) rfl)

/-- An expansion is the dressed outcome of rewriting the template, and nothing else is. -/
theorem expand_eq_iff_rewrites (e : Expander) (t : List Char) (o : Overrides) (pattern : List Char) :
    e.expand t o = pattern ↔
      ∃ body, Rewrites e.table (e.settings.merge o).defaultFragment t body ∧
        pattern = (e.settings.merge o).dress t body := by
  simp only [rewrites_iff, exists_eq_left, Expander.expand, Settings.finish_eq_dress]
  exact eq_comm

end RouteTemplate
