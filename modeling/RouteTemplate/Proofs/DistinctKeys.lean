import RouteTemplate.Toml.Document

/-!
Keys of TOML documents. No table of a document has a key twice, at whatever depth and however the table
came about. The readers of values give such tables only, the operations on tables keep this, and so does
the assembly of a document line by line.
-/

namespace RouteTemplate.Toml

/-! ### Tables with distinct keys -/

/-- No table in a value has a key twice. -/
inductive Value.Distinct : Value → Prop where
  | string (s : List Char) : Distinct (.string s)
  | integer (n : Int) : Distinct (.integer n)
  | float (d : Decimal) : Distinct (.float d)
  | boolean (b : Bool) : Distinct (.boolean b)
  | dateTime (d : DateTime) : Distinct (.dateTime d)
  | array {items : List Value} (h : ∀ x ∈ items, Distinct x) : Distinct (.array items)
  | table {kind : TableKind} {entries : List (List Char × Value)}
      (hkeys : (entries.map (·.1)).Nodup) (h : ∀ e ∈ entries, Distinct e.2) :
      Distinct (.table kind entries)
  | tables {items : List (List (List Char × Value))} (hkeys : ∀ t ∈ items, (t.map (·.1)).Nodup)
      (h : ∀ t ∈ items, ∀ e ∈ t, Distinct e.2) : Distinct (.tables items)

namespace Entries

/-- Neither these entries nor a table among their values have a key twice. -/
structure Distinct (entries : Entries) : Prop where
  nodup : (entries.map (·.1)).Nodup
  values : ∀ e ∈ entries, e.2.Distinct

theorem distinct_nil : Distinct [] := ⟨List.nodup_nil, by simp⟩

theorem distinct_table_iff {kind : TableKind} {entries : Entries} :
    (Value.table kind entries).Distinct ↔ Distinct entries := by
  constructor
  · rintro (_ | _ | _ | _ | _ | _ | ⟨hkeys, h⟩)
    exact ⟨hkeys, h⟩
  · rintro ⟨hkeys, h⟩
    exact .table hkeys h

theorem distinct_tables_iff {items : List Entries} :
    (Value.tables items).Distinct ↔ ∀ t ∈ items, Distinct t := by
  constructor
  · rintro (_ | _ | _ | _ | _ | _ | _ | ⟨hkeys, h⟩) t ht
    exact ⟨hkeys t ht, h t ht⟩
  · intro h
    exact .tables (fun t ht => (h t ht).nodup) fun t ht => (h t ht).values

/-- A value that is read as a table gives distinct keys. -/
theorem nodup_of_entries? {x : Value} {entries : Entries} (h : x.Distinct)
    (hx : x.entries? = some entries) : (entries.map (·.1)).Nodup := by
  cases x with
  | table kind inside =>
    cases hx
    exact (distinct_table_iff.1 h).nodup
  | dateTime d =>
    cases hx
    simp
  | _ => cases hx

theorem mem_keys_set {key k : Key} {x : Value} {entries : Entries} :
    k ∈ (set key x entries).map (·.1) ↔ k = key ∨ k ∈ entries.map (·.1) := by
  induction entries with
  | nil => simp [set]
  | cons e entries ih => by_cases h : e.1 = key <;> grind [set]

theorem eq_or_mem_of_mem_set {key : Key} {x : Value} {entries : Entries} {e : Key × Value}
    (h : e ∈ set key x entries) : e = (key, x) ∨ e ∈ entries := by
  induction entries with
  | nil => simpa [set] using h
  | cons d entries ih => by_cases hd : d.1 = key <;> grind [set]

namespace Distinct

variable {entries entries' : Entries} {key : Key} {x : Value} {path : List Key}

theorem set (h : entries.Distinct) (hx : x.Distinct) : (Entries.set key x entries).Distinct where
  nodup := by
    obtain ⟨hkeys, -⟩ := h
    induction entries with
    | nil => simp [Entries.set]
    | cons e entries ih =>
      simp only [List.map_cons, List.nodup_cons] at hkeys
      by_cases he : e.1 = key
      · subst he
        simpa [Entries.set] using hkeys
      · rw [Entries.set, if_neg he, List.map_cons, List.nodup_cons, mem_keys_set]
        exact ⟨fun hmem => hmem.elim he hkeys.1, ih hkeys.2⟩
  values e he := by
    rcases eq_or_mem_of_mem_set he with rfl | he
    · exact hx
    · exact h.values e he

theorem lookup (h : entries.Distinct) (hx : entries.lookup key = some x) : x.Distinct := by
  obtain ⟨before, after, rfl, -⟩ := List.lookup_eq_some_iff.1 hx
  exact h.values (key, x) (by simp)

theorem lookup_table (h : entries.Distinct) {kind : TableKind} {inside : Entries}
    (hx : entries.lookup key = some (.table kind inside)) : inside.Distinct :=
  distinct_table_iff.1 (h.lookup hx)

theorem lookup_tables (h : entries.Distinct) {items : List Entries}
    (hx : entries.lookup key = some (.tables items)) : ∀ t ∈ items, t.Distinct :=
  distinct_tables_iff.1 (h.lookup hx)

theorem update {dotted : Bool} {f : TableKind → Entries → Option Entries} {kind : TableKind}
    (hf : ∀ kind {t t'}, t.Distinct → f kind t = some t' → t'.Distinct) (h : entries.Distinct)
    (hupdate : Entries.update dotted f kind path entries = some entries') : entries'.Distinct := by
  induction path generalizing kind entries entries' with
  | nil => exact hf kind h hupdate
  | cons key path ih =>
    rw [Entries.update] at hupdate
    split at hupdate
    next =>
      obtain ⟨t, ht, hset⟩ := Option.bind_eq_some_iff.1 hupdate
      cases hset
      exact h.set (distinct_table_iff.2 (ih distinct_nil ht))
    next kind inside hlookup =>
      split at hupdate
      · cases hupdate
      · obtain ⟨t, ht, hset⟩ := Option.bind_eq_some_iff.1 hupdate
        cases hset
        exact h.set (distinct_table_iff.2 (ih (h.lookup_table hlookup) ht))
    next items hlookup =>
      split at hupdate
      next last hlast =>
        obtain ⟨t, ht, hset⟩ := Option.bind_eq_some_iff.1 hupdate
        cases hset
        have hitems := h.lookup_tables hlookup
        have ht := ih (hitems last (List.mem_of_getLast? hlast)) ht
        refine h.set (distinct_tables_iff.2 fun u hu => ?_)
        rcases List.mem_append.1 hu with hu | hu
        · exact hitems u ((List.dropLast_sublist items).subset hu)
        · obtain rfl := List.mem_singleton.1 hu
          exact ht
      · cases hupdate
    next => cases hupdate

theorem insert {kind : TableKind} (h : entries.Distinct) (hx : x.Distinct)
    (hinsert : Entries.insert entries kind path key x = some entries') : entries'.Distinct := by
  refine h.update (fun kind t t' ht hset => ?_) hinsert
  split at hset
  · cases hset
  · cases hset
    exact ht.set hx

theorem opened (h : entries.Distinct) (hopened : Entries.opened? entries path = some entries') :
    entries'.Distinct := by
  fun_induction Entries.opened? entries path with
  | case1 | case4 | case6 | case9 => cases hopened
  | case2 | case5 =>
    cases hopened
    exact distinct_nil
  | case3 entries key inside hlookup =>
    cases hopened
    exact h.lookup_table hlookup
  | case7 entries key path _ kind inside hlookup _ ih =>
    exact ih (h.lookup_table hlookup) hopened
  | case8 entries key path _ items hlookup ih =>
    obtain ⟨last, hlast, hopened⟩ := Option.bind_eq_some_iff.1 hopened
    exact ih last (h.lookup_tables hlookup last (List.mem_of_getLast? hlast)) hopened

theorem close {table : Entries} (h : entries.Distinct) (ht : table.Distinct)
    (hclose : Entries.close? entries path table = some entries') : entries'.Distinct := by
  unfold Entries.close? at hclose
  split at hclose
  · cases hclose
  · refine h.update (fun kind t t' h hset => ?_) hclose
    cases hset
    exact h.set (distinct_table_iff.2 ht)

theorem push {table : Entries} (h : entries.Distinct) (ht : table.Distinct)
    (hpush : Entries.push? entries path table = some entries') : entries'.Distinct := by
  unfold Entries.push? at hpush
  split at hpush
  · cases hpush
  · refine h.update (fun kind t t' h hset => ?_) hpush
    split at hset
    · cases hset
      exact h.set (distinct_tables_iff.2 (by simpa using ht))
    next items hlookup =>
      cases hset
      refine h.set (distinct_tables_iff.2 fun u hu => ?_)
      rcases List.mem_append.1 hu with hu | hu
      · exact h.lookup_tables hlookup u hu
      · obtain rfl := List.mem_singleton.1 hu
        exact ht
    · cases hset

end Distinct

end Entries

/-! ### Readers of rows -/

section Rows

variable {α β : Type} {P : α → Prop}

theorem forall_of_row {part : List Char → Option (α × List Char)}
    (hpart : ∀ {s x rest}, part s = some (x, rest) → P x) {separator : Char} {fuel : Nat}
    {s rest : List Char} {xs : List α} (h : row part separator fuel s = some (xs, rest)) :
    ∀ x ∈ xs, P x := by
  induction fuel generalizing s xs rest with
  | zero => cases h
  | succ fuel ih =>
    obtain ⟨⟨x, r⟩, hx, h⟩ := Option.bind_eq_some_iff.1 h
    dsimp only at h
    split at h
    · obtain ⟨⟨ys, r'⟩, hys, h⟩ := Option.bind_eq_some_iff.1 h
      cases h
      exact List.forall_mem_cons.2 ⟨hpart hx, ih hys⟩
    · cases h
      exact List.forall_mem_singleton.2 (hpart hx)

/-- What each step of a fold keeps, the fold keeps. -/
theorem of_foldlM_eq_some {f : α → β → Option α} {xs : List β} {start last : α} (hstart : P start)
    (hf : ∀ x ∈ xs, ∀ {a b}, P a → f a x = some b → P b) (h : xs.foldlM f start = some last) :
    P last := by
  induction xs generalizing start with
  | nil =>
    cases h
    exact hstart
  | cons x xs ih =>
    rw [List.foldlM_cons] at h
    obtain ⟨a, ha, h⟩ := Option.bind_eq_some_iff.1 h
    exact ih (hf x (by simp) hstart ha) (fun y hy => hf y (by simp [hy])) h

end Rows

/-! ### Readers of values -/

/-- A reader of values gives those only in which no table has a key twice. -/
def GivesDistinct (value : List Char → Option (Value × List Char)) : Prop :=
  ∀ s x rest, value s = some (x, rest) → x.Distinct

section Values

variable {value : List Char → Option (Value × List Char)} {s rest : List Char}

theorem GivesDistinct.or {f g : List Char → Option (Value × List Char)} (hf : GivesDistinct f)
    (hg : GivesDistinct g) : GivesDistinct fun s => (f s).or (g s) := by
  intro s x rest h
  rcases Option.or_eq_some_iff.1 h with h | ⟨-, h⟩
  · exact hf s x rest h
  · exact hg s x rest h

theorem givesDistinct_map {α : Type} {part : List Char → Option (α × List Char)} {build : α → Value}
    (h : ∀ a, (build a).Distinct) :
    GivesDistinct fun s => (part s).map fun (a, rest) => (build a, rest) := by
  intro s x rest hx
  obtain ⟨⟨a, r⟩, -, hx⟩ := Option.map_eq_some_iff.1 hx
  cases hx
  exact h a

theorem givesDistinct_scalar? : GivesDistinct scalar? :=
  ((((givesDistinct_map .string).or (givesDistinct_map .dateTime)).or
    (givesDistinct_map .float)).or (givesDistinct_map .integer)).or (givesDistinct_map .boolean)

theorem forall_distinct_of_items (hvalue : GivesDistinct value) {fuel : Nat} {xs : List Value}
    (h : items value fuel s = some (xs, rest)) : ∀ x ∈ xs, x.Distinct := by
  induction fuel generalizing s xs rest with
  | zero => cases h
  | succ fuel ih =>
    obtain ⟨⟨x, r⟩, hx, h⟩ := Option.bind_eq_some_iff.1 h
    dsimp only at h
    split at h
    · cases h
      exact List.forall_mem_singleton.2 (hvalue _ _ _ hx)
    · split at h
      · cases h
        exact List.forall_mem_singleton.2 (hvalue _ _ _ hx)
      · obtain ⟨⟨ys, r'⟩, hys, h⟩ := Option.bind_eq_some_iff.1 h
        cases h
        exact List.forall_mem_cons.2 ⟨hvalue _ _ _ hx, ih hys⟩
    · cases h

theorem givesDistinct_array (hvalue : GivesDistinct value) : GivesDistinct (array value) := by
  intro s x rest h
  unfold array at h
  split at h
  · cases h
    exact .array (by simp)
  · obtain ⟨⟨xs, r⟩, hxs, h⟩ := Option.map_eq_some_iff.1 h
    cases h
    exact .array (forall_distinct_of_items hvalue hxs)

theorem distinct_of_keyValue? (hvalue : GivesDistinct value) {path : List Key} {x : Value}
    (h : keyValue? value s = some ((path, x), rest)) : x.Distinct := by
  unfold keyValue? at h
  simp only [Option.bind_eq_bind, Option.bind_eq_some_iff] at h
  obtain ⟨_, _, _, _, _, hx, h⟩ := h
  cases h
  exact hvalue _ _ _ hx

theorem distinct_of_inlineEntries {entries : List (List Key × Value)} {table : Entries}
    (hentries : ∀ e ∈ entries, e.2.Distinct) (h : inlineEntries entries = some table) :
    table.Distinct := by
  refine of_foldlM_eq_some Entries.distinct_nil (fun e he a b ha hb => ?_) h
  obtain ⟨key, -, hb⟩ := Option.bind_eq_some_iff.1 hb
  exact ha.insert (hentries e he) hb

theorem givesDistinct_inlineTable (hvalue : GivesDistinct value) :
    GivesDistinct (inlineTable value) := by
  intro s x rest h
  unfold inlineTable at h
  split at h
  · cases h
    exact Entries.distinct_table_iff.2 Entries.distinct_nil
  · simp only [Option.bind_eq_bind, Option.bind_eq_some_iff] at h
    obtain ⟨⟨entries, r⟩, hentries, table, htable, _, _, h⟩ := h
    cases h
    have hdistinct : ∀ e ∈ entries, e.2.Distinct :=
      forall_of_row (fun h => distinct_of_keyValue? hvalue h) hentries
    exact Entries.distinct_table_iff.2 (distinct_of_inlineEntries hdistinct htable)

theorem givesDistinct_value? (nesting : Nat) : GivesDistinct (value? nesting) := by
  induction nesting with
  | zero =>
    intro s x rest h
    exact givesDistinct_scalar? _ _ _ h
  | succ n ih =>
    intro s x rest h
    unfold value? at h
    split at h
    next hn =>
      cases hn
      exact givesDistinct_array ih _ _ _ h
    next hn =>
      cases hn
      exact givesDistinct_inlineTable ih _ _ _ h
    · exact givesDistinct_scalar? _ _ _ h

end Values

/-! ### Documents -/

/-- A line does not write a value in which a table has a key twice. -/
def Line.Distinct : Line → Prop
  | .entry _ _ x => x.Distinct
  | .header _ | .arrayHeader _ => True

theorem distinct_of_line? {s rest : List Char} {line : Line} (h : line? s = some (line, rest)) :
    line.Distinct := by
  unfold line? at h
  split at h
  all_goals
    simp only [Option.bind_eq_bind, Option.bind_eq_some_iff, Option.pure_def] at h
  · obtain ⟨_, _, _, _, _, _, _, _, h⟩ := h
    cases h
    trivial
  · obtain ⟨_, _, _, _, _, _, h⟩ := h
    cases h
    trivial
  · obtain ⟨⟨⟨path, x⟩, r⟩, hx, _, _, _, _, h⟩ := h
    cases h
    exact distinct_of_keyValue? (givesDistinct_value? maxNesting) hx

theorem forall_distinct_of_readLines {fuel : Nat} {s : List Char} {lines : List Line}
    (h : readLines fuel s = some lines) : ∀ line ∈ lines, line.Distinct := by
  induction fuel generalizing s lines with
  | zero => cases h
  | succ fuel ih =>
    rw [readLines] at h
    split at h
    · cases h
      simp
    · split at h
      · cases h
        simp
      · cases h
    · obtain ⟨⟨line, r⟩, hline, h⟩ := Option.bind_eq_some_iff.1 h
      obtain ⟨others, hothers, h⟩ := Option.bind_eq_some_iff.1 h
      cases h
      exact List.forall_mem_cons.2 ⟨distinct_of_line? hline, ih hothers⟩

namespace Assembly

/-- Neither the tables in their places nor the open one have a key twice. -/
structure Distinct (a : Assembly) : Prop where
  root : a.root.Distinct
  entries : a.entries.Distinct

theorem Distinct.close {a : Assembly} {root : Entries} (h : a.Distinct)
    (hclose : a.close? = some root) : root.Distinct := by
  unfold close? at hclose
  split at hclose
  · cases hclose
    exact h.entries
  · exact h.root.close h.entries hclose
  · exact h.root.push h.entries hclose

theorem Distinct.take {a b : Assembly} {line : Line} (h : a.Distinct) (hline : line.Distinct)
    (htake : a.take line = some b) : b.Distinct := by
  cases line with
  | entry path key x =>
    obtain ⟨entries, hentries, hb⟩ := Option.bind_eq_some_iff.1 htake
    cases hb
    exact ⟨h.root, h.entries.insert hline hentries⟩
  | header path =>
    obtain ⟨root, hroot, hb⟩ := Option.bind_eq_some_iff.1 htake
    obtain ⟨entries, hentries, hb⟩ := Option.bind_eq_some_iff.1 hb
    cases hb
    exact ⟨h.close hroot, (h.close hroot).opened hentries⟩
  | arrayHeader path =>
    obtain ⟨root, hroot, hb⟩ := Option.bind_eq_some_iff.1 htake
    cases hb
    exact ⟨h.close hroot, Entries.distinct_nil⟩

end Assembly

/-- No table of a document has a key twice. -/
theorem distinct_of_parse? {s : List Char} {document : Entries} (h : parse? s = some document) :
    document.Distinct := by
  obtain ⟨lines, hlines, h⟩ := Option.bind_eq_some_iff.1 h
  obtain ⟨a, ha, hclose⟩ := Option.bind_eq_some_iff.1 h
  have hstart : Assembly.Distinct .start := ⟨Entries.distinct_nil, Entries.distinct_nil⟩
  have ha : a.Distinct :=
    of_foldlM_eq_some hstart
      (fun line hline _ _ h => h.take (forall_distinct_of_readLines hlines line hline)) ha
  exact ha.close hclose

end RouteTemplate.Toml
