/-!
Tables of pattern fragments by name. A name has at most one fragment, the one that was written last.
-/

namespace RouteTemplate

/-- Entries in the order in which their names were first written. -/
structure FragmentTable where
  entries : List (List Char × List Char)
  nodup : (entries.map (·.1)).Nodup
  deriving DecidableEq, Repr

namespace FragmentTable

/-- Writes an entry over the one of the same name, or after all others. -/
def put (name fragment : List Char) :
    List (List Char × List Char) → List (List Char × List Char)
  | [] => [(name, fragment)]
  | e :: entries =>
    if e.1 = name then (name, fragment) :: entries else e :: put name fragment entries

theorem mem_names_put {name fragment n : List Char} {entries : List (List Char × List Char)} :
    n ∈ (put name fragment entries).map (·.1) ↔ n = name ∨ n ∈ entries.map (·.1) := by
  induction entries with
  | nil => simp [put]
  | cons e entries ih => by_cases h : e.1 = name <;> grind [put]

theorem nodup_put {name fragment : List Char} {entries : List (List Char × List Char)}
    (h : (entries.map (·.1)).Nodup) : ((put name fragment entries).map (·.1)).Nodup := by
  induction entries with
  | nil => simp [put]
  | cons e entries ih =>
    simp only [List.map_cons, List.nodup_cons] at h
    by_cases hn : e.1 = name
    · subst hn
      simpa [put] using h
    · rw [put, if_neg hn, List.map_cons, List.nodup_cons, mem_names_put]
      exact ⟨fun hmem => hmem.elim hn h.1, ih h.2⟩

theorem lookup_put (name fragment n : List Char) (entries : List (List Char × List Char)) :
    (put name fragment entries).lookup n = if n = name then some fragment else entries.lookup n := by
  induction entries with
  | nil => grind [put]
  | cons e entries ih => by_cases h : e.1 = name <;> grind [put]

/-! ### Reading and writing -/

def empty : FragmentTable := ⟨[], by simp⟩

instance : Inhabited FragmentTable := ⟨empty⟩

def get? (t : FragmentTable) (name : List Char) : Option (List Char) := t.entries.lookup name

def contains (t : FragmentTable) (name : List Char) : Bool := (t.get? name).isSome

def size (t : FragmentTable) : Nat := t.entries.length

def insert (t : FragmentTable) (name fragment : List Char) : FragmentTable :=
  ⟨put name fragment t.entries, nodup_put t.nodup⟩

/-- Inserts entries one after another. -/
def extend (t : FragmentTable) (entries : List (List Char × List Char)) : FragmentTable :=
  entries.foldl (fun t e => t.insert e.1 e.2) t

def ofList (entries : List (List Char × List Char)) : FragmentTable := empty.extend entries

@[simp] theorem get?_insert (t : FragmentTable) (name fragment n : List Char) :
    (t.insert name fragment).get? n = if n = name then some fragment else t.get? n :=
  lookup_put name fragment n t.entries

theorem extend_append (t : FragmentTable) (xs ys : List (List Char × List Char)) :
    t.extend (xs ++ ys) = (t.extend xs).extend ys :=
  List.foldl_append

/-- Of several entries for a name the last one counts. -/
theorem get?_extend (t : FragmentTable) (entries : List (List Char × List Char)) (n : List Char) :
    (t.extend entries).get? n = (entries.reverse.lookup n).or (t.get? n) := by
  induction entries generalizing t with
  | nil => rfl
  | cons e entries ih =>
    obtain ⟨name, fragment⟩ := e
    have hcons : t.extend ((name, fragment) :: entries) = (t.insert name fragment).extend entries :=
      rfl
    rw [hcons, ih, get?_insert, List.reverse_cons, List.lookup_append, Option.or_assoc]
    by_cases h : n = name
    · simp [h]
    · simp [List.lookup_cons, beq_false_of_ne h, h]

/-- Whether a text comes before another or is the same, by code points. -/
def precedes : List Char → List Char → Bool
  | [], _ => true
  | _ :: _, [] => false
  | c :: s, d :: t => c.toNat < d.toNat || (c = d && precedes s t)

/-- Puts an entry before the first one whose name does not come before its own. -/
def insertSorted (e : List Char × List Char) :
    List (List Char × List Char) → List (List Char × List Char)
  | [] => [e]
  | f :: entries => if precedes e.1 f.1 then e :: f :: entries else f :: insertSorted e entries

/-- The entries in the order of their names. -/
def sorted (t : FragmentTable) : List (List Char × List Char) := t.entries.foldr insertSorted []

/-- Whether two tables have the same fragments, in whatever order they were written. -/
def same (t u : FragmentTable) : Bool :=
  t.size = u.size && t.entries.all fun e => u.get? e.1 = some e.2

/-! ### Lookup for a placeholder -/

/-- The fragment for a placeholder: that of its pattern, or else the pattern itself; if there is no
pattern, that of its name, or else the default. What is found is not looked up again. -/
def resolve (t : FragmentTable) (name : List Char) (pattern : Option (List Char))
    (default : List Char) : List Char :=
  match pattern with
  | some pattern => (t.get? pattern).getD pattern
  | none => (t.get? name).getD default

/-- The fragments that every table begins with, unless it is to be empty. -/
def standardEntries : List (List Char × List Char) :=
  [("day".toList, "\\d\x7b1,2\x7d".toList),
   ("id".toList, "\\d+".toList),
   ("month".toList, "\\d\x7b1,2\x7d".toList),
   ("slug".toList, "[\\w-]+".toList),
   ("tag".toList, "\\w+".toList),
   ("year".toList, "\\d\x7b4\x7d".toList),
   ("mon".toList, "[a-z]\x7b3\x7d".toList),
   ("n".toList, "\\d+".toList)]

def standard : FragmentTable := ofList standardEntries

end FragmentTable

end RouteTemplate
