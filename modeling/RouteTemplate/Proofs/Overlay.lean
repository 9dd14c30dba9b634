import RouteTemplate.Proofs.DistinctKeys
import RouteTemplate.Proofs.LastWrites
import RouteTemplate.SettingsFile

/-!
What settings files stand for. A file lies over the standard settings and the standard table: each
setting that it gives replaces the standard one, each fragment the standard one of its name, and all
others stay. It has no say in anything if one setting or one fragment in it is of a wrong type.
-/

namespace RouteTemplate

/-! ### Fields -/

namespace Toml.Value

theorem string?_eq_some_iff {x : Value} {s : List Char} : x.string? = some s ↔ x = .string s := by
  cases x <;> simp [string?]

theorem boolean?_eq_some_iff {x : Value} {b : Bool} : x.boolean? = some b ↔ x = .boolean b := by
  cases x <;> simp [boolean?]

end Toml.Value

namespace SettingsFile

section Field

variable {α : Type} {read : Toml.Value → Option α} {build : α → Toml.Value} {default a : α}
  {x : Option Toml.Value}

/-- A field is read if it is missing or of its type. -/
theorem field_eq_some_iff (hread : ∀ {x a}, read x = some a ↔ x = build a) :
    field read default x = some a ↔ ∃ o : Option α, x = o.map build ∧ a = o.getD default := by
  constructor
  · intro h
    cases x with
    | none =>
      cases h
      exact ⟨none, rfl, rfl⟩
    | some x => exact ⟨some a, congrArg some (hread.1 h), rfl⟩
  · rintro ⟨_ | a, rfl, rfl⟩
    · rfl
    · exact hread.2 rfl

/-- A field is missing or of its type, unless it is of another type. -/
theorem exists_eq_map_iff {build : α → Toml.Value} {x : Option Toml.Value} :
    (∃ o : Option α, x = o.map build) ↔ ¬ ∃ y, x = some y ∧ ∀ a, y ≠ build a := by
  constructor
  · rintro ⟨o, hx⟩ ⟨y, hy, hne⟩
    obtain ⟨a, -, rfl⟩ := Option.map_eq_some_iff.1 (hx.symm.trans hy)
    exact hne a rfl
  · intro h
    cases x with
    | none => exact ⟨none, rfl⟩
    | some y =>
      obtain ⟨a, rfl⟩ : ∃ a, y = build a := by
        by_contra hne
        exact h ⟨y, rfl, not_exists.1 hne⟩
      exact ⟨some a, rfl⟩

end Field

/-! ### Settings of a table -/

/-- Which settings a table gives. It may leave out any of them, and have other keys besides. -/
structure Gives (entries : Toml.Entries) (o : Overrides) : Prop where
  defaultFragment : entries.lookup "default_fragment".toList = o.defaultFragment.map .string
  anchor : entries.lookup "anchor".toList = o.anchor.map .boolean
  terminate : entries.lookup "terminate".toList = o.terminate.map .boolean
  appendSlash : entries.lookup "append_slash".toList = o.appendSlash.map .boolean

/-- The settings that are on or off. -/
def switches : List (List Char) := ["anchor".toList, "terminate".toList, "append_slash".toList]

/-- A table has a setting with a value of another type than the setting's own. -/
inductive Misgives (entries : Toml.Entries) : Prop
  | fragment {x : Toml.Value} (h : entries.lookup "default_fragment".toList = some x)
      (hx : ∀ s, x ≠ .string s)
  | switch {name : List Char} {x : Toml.Value} (hname : name ∈ switches)
      (h : entries.lookup name = some x) (hx : ∀ b, x ≠ .boolean b)

theorem settingsOfEntries_eq_some_iff {entries : Toml.Entries} {s : Settings} :
    settingsOfEntries entries = some s ↔ ∃ o, Gives entries o ∧ s = Settings.standard.merge o := by
  unfold settingsOfEntries
  simp only [Option.bind_eq_bind, Option.bind_eq_some_iff, Option.pure_def,
    field_eq_some_iff Toml.Value.string?_eq_some_iff,
    field_eq_some_iff Toml.Value.boolean?_eq_some_iff]
  constructor
  · rintro ⟨_, ⟨fragment, hfragment, rfl⟩, _, ⟨anchor, hanchor, rfl⟩, _, ⟨terminate, hterminate, rfl⟩,
      _, ⟨slash, hslash, rfl⟩, h⟩
    cases h
    exact ⟨⟨fragment, anchor, terminate, slash⟩, ⟨hfragment, hanchor, hterminate, hslash⟩, rfl⟩
  · rintro ⟨o, h, rfl⟩
    exact ⟨_, ⟨_, h.defaultFragment, rfl⟩, _, ⟨_, h.anchor, rfl⟩, _, ⟨_, h.terminate, rfl⟩,
      _, ⟨_, h.appendSlash, rfl⟩, rfl⟩

theorem Gives.not_misgives {entries : Toml.Entries} {o : Overrides} (h : Gives entries o) :
    ¬ Misgives entries := by
  rintro (⟨hx, hne⟩ | ⟨hname, hx, hne⟩)
  · exact exists_eq_map_iff.1 ⟨_, h.defaultFragment⟩ ⟨_, hx, hne⟩
  · simp only [switches, List.mem_cons, List.not_mem_nil, or_false] at hname
    rcases hname with rfl | rfl | rfl
    · exact exists_eq_map_iff.1 ⟨_, h.anchor⟩ ⟨_, hx, hne⟩
    · exact exists_eq_map_iff.1 ⟨_, h.terminate⟩ ⟨_, hx, hne⟩
    · exact exists_eq_map_iff.1 ⟨_, h.appendSlash⟩ ⟨_, hx, hne⟩

theorem gives_or_misgives (entries : Toml.Entries) : (∃ o, Gives entries o) ∨ Misgives entries := by
  by_cases h : Misgives entries
  · exact .inr h
  have hswitch (name : List Char) (hname : name ∈ switches) :
      ∃ o : Option Bool, entries.lookup name = o.map .boolean :=
    exists_eq_map_iff.2 fun ⟨_, hx, hne⟩ => h (.switch hname hx hne)
  obtain ⟨fragment, hfragment⟩ :
      ∃ o : Option (List Char), entries.lookup "default_fragment".toList = o.map .string :=
    exists_eq_map_iff.2 fun ⟨_, hx, hne⟩ => h (.fragment hx hne)
  obtain ⟨anchor, hanchor⟩ := hswitch "anchor".toList (by simp [switches])
  obtain ⟨terminate, hterminate⟩ := hswitch "terminate".toList (by simp [switches])
  obtain ⟨slash, hslash⟩ := hswitch "append_slash".toList (by simp [switches])
  exact .inl ⟨⟨fragment, anchor, terminate, slash⟩, hfragment, hanchor, hterminate, hslash⟩

theorem settingsOfEntries_eq_none {entries : Toml.Entries} (h : Misgives entries) :
    settingsOfEntries entries = none := by
  refine Option.eq_none_iff_forall_ne_some.2 fun s hs => ?_
  obtain ⟨o, ho, -⟩ := settingsOfEntries_eq_some_iff.1 hs
  exact ho.not_misgives h

/-! ### Fragments of a table -/

/-- The entries of a table that gives fragments. -/
def fragmentEntries (patterns : List (List Char × List Char)) : Toml.Entries :=
  patterns.map fun e => (e.1, .string e.2)

theorem keys_fragmentEntries (patterns : List (List Char × List Char)) :
    (fragmentEntries patterns).map (·.1) = patterns.map (·.1) := by
  rw [fragmentEntries, List.map_map]
  rfl

theorem exists_fragmentEntries_eq {entries : Toml.Entries}
    (h : ∀ e ∈ entries, ∃ s, e.2 = .string s) : ∃ patterns, entries = fragmentEntries patterns := by
  induction entries with
  | nil => exact ⟨[], rfl⟩
  | cons e entries ih =>
    obtain ⟨name, x⟩ := e
    obtain ⟨⟨s, rfl⟩, hentries⟩ := List.forall_mem_cons.1 h
    obtain ⟨patterns, rfl⟩ := ih hentries
    exact ⟨(name, s) :: patterns, rfl⟩

/-- Reads an entry that gives a fragment. -/
def fragment? (e : List Char × Toml.Value) : Option (List Char × List Char) := do
  return (e.1, ← e.2.string?)

theorem fragment?_eq_some_iff {e : List Char × Toml.Value} {d : List Char × List Char} :
    fragment? e = some d ↔ e = (d.1, .string d.2) := by
  obtain ⟨name, x⟩ := e
  obtain ⟨name', fragment⟩ := d
  simp [fragment?, Option.bind_eq_some_iff, Toml.Value.string?_eq_some_iff, and_comm]

theorem mapM_fragment?_eq_some_iff {entries : Toml.Entries} {patterns : List (List Char × List Char)} :
    entries.mapM fragment? = some patterns ↔ entries = fragmentEntries patterns := by
  induction entries generalizing patterns with
  | nil => cases patterns <;> simp [fragmentEntries]
  | cons e entries ih =>
    rw [List.mapM_cons]
    simp only [Option.bind_eq_bind, Option.bind_eq_some_iff, Option.pure_def, Option.some.injEq,
      fragment?_eq_some_iff, ih]
    constructor
    · rintro ⟨d, rfl, patterns, rfl, rfl⟩
      rfl
    · intro h
      cases patterns with
      | nil => cases h
      | cons d patterns =>
        obtain ⟨rfl, rfl⟩ := List.cons.inj h
        exact ⟨d, rfl, patterns, rfl, rfl⟩

theorem patterns?_eq_some_iff {x : Toml.Value} {patterns : List (List Char × List Char)} :
    patterns? x = some patterns ↔ x.entries? = some (fragmentEntries patterns) := by
  have hread : patterns? x = x.entries?.bind fun entries => entries.mapM fragment? := rfl
  simp only [hread, Option.bind_eq_some_iff, mapM_fragment?_eq_some_iff, exists_eq_right]

/-! ### Documents -/

/-- What a document says: the settings that its table `expander` gives, and the fragments in its table
`patterns`. It may leave out either, and have other keys besides. -/
structure Describes (document : Toml.Entries) (o : Overrides) (patterns : List (List Char × List Char)) :
    Prop where
  settings : document.lookup "expander".toList = none ∧ o = .none ∨
    ∃ kind entries, document.lookup "expander".toList = some (.table kind entries) ∧ Gives entries o
  patterns : document.lookup "patterns".toList = none ∧ patterns = [] ∨
    ∃ kind, document.lookup "patterns".toList = some (.table kind (fragmentEntries patterns))

/-- Something that a document says of settings or fragments is of a wrong type. -/
inductive IllTyped (document : Toml.Entries) : Prop
  | setting {kind : Toml.TableKind} {entries : Toml.Entries}
      (h : document.lookup "expander".toList = some (.table kind entries))
      (hentries : Misgives entries)
  | fragment {kind : Toml.TableKind} {entries : Toml.Entries} {e : List Char × Toml.Value}
      (h : document.lookup "patterns".toList = some (.table kind entries)) (he : e ∈ entries)
      (hx : ∀ s, e.2 ≠ .string s)
  | noSettings {x : Toml.Value} (h : document.lookup "expander".toList = some x)
      (htable : x.entries? = none) (harray : ∀ items, x ≠ .array items)
  | noFragments {x : Toml.Value} (h : document.lookup "patterns".toList = some x)
      (htable : x.entries? = none)

section Documents

variable {document : Toml.Entries} {o : Overrides} {patterns : List (List Char × List Char)}

theorem ofDocument?_eq_some_iff {file : SettingsFile} :
    ofDocument? document = some file ↔
      field settings? .standard (document.lookup "expander".toList) = some file.settings ∧
        field patterns? [] (document.lookup "patterns".toList) = some file.patterns := by
  obtain ⟨settings, patterns⟩ := file
  simp [ofDocument?, Option.bind_eq_some_iff]

theorem Describes.ofDocument? (h : Describes document o patterns) :
    ofDocument? document = some ⟨Settings.standard.merge o, patterns⟩ := by
  rw [ofDocument?_eq_some_iff]
  constructor
  · rcases h.settings with ⟨hx, rfl⟩ | ⟨kind, entries, hx, hentries⟩
    · rw [hx]
      rfl
    · rw [hx]
      exact settingsOfEntries_eq_some_iff.2 ⟨o, hentries, rfl⟩
  · rcases h.patterns with ⟨hx, rfl⟩ | ⟨kind, hx⟩
    · rw [hx]
      rfl
    · rw [hx]
      exact patterns?_eq_some_iff.2 rfl

theorem IllTyped.ofDocument? (h : IllTyped document) : ofDocument? document = none := by
  refine Option.eq_none_iff_forall_ne_some.2 fun file hfile => ?_
  obtain ⟨hsettings, hpatterns⟩ := ofDocument?_eq_some_iff.1 hfile
  cases h with
  | setting h hentries =>
    rw [h] at hsettings
    cases (settingsOfEntries_eq_none hentries).symm.trans hsettings
  | @fragment kind entries e h he hx =>
    rw [h] at hpatterns
    obtain rfl := Option.some.inj (patterns?_eq_some_iff.1 hpatterns)
    obtain ⟨d, -, rfl⟩ := List.mem_map.1 he
    exact hx d.2 rfl
  | @noSettings x h htable harray =>
    rw [h] at hsettings
    cases x with
    | array items => exact harray items rfl
    | table | dateTime => cases htable
    | _ => cases hsettings
  | noFragments h htable =>
    rw [h] at hpatterns
    cases htable.symm.trans (patterns?_eq_some_iff.1 hpatterns)

/-- A document says something or is ill-typed, unless an array or a date is read in a table's place. -/
theorem describes_or_illTyped
    (harray : ∀ items, document.lookup "expander".toList ≠ some (.array items))
    (hdate : ∀ d, document.lookup "expander".toList ≠ some (.dateTime d))
    (hdate' : ∀ d, document.lookup "patterns".toList ≠ some (.dateTime d)) :
    (∃ o patterns, Describes document o patterns) ∨ IllTyped document := by
  by_cases hill : IllTyped document
  · exact .inr hill
  refine .inl ?_
  have hsettings : ∃ o, document.lookup "expander".toList = none ∧ o = .none ∨
      ∃ kind entries, document.lookup "expander".toList = some (.table kind entries) ∧
        Gives entries o := by
    cases hx : document.lookup "expander".toList with
    | none => exact ⟨.none, .inl ⟨rfl, rfl⟩⟩
    | some x =>
      cases x with
      | table kind entries =>
        obtain ⟨o, ho⟩ := (gives_or_misgives entries).resolve_right fun h => hill (.setting hx h)
        exact ⟨o, .inr ⟨kind, entries, rfl, ho⟩⟩
      | array items => exact absurd hx (harray items)
      | dateTime d => exact absurd hx (hdate d)
      | _ => exact absurd (.noSettings hx rfl (by simp)) hill
  have hpatterns : ∃ patterns, document.lookup "patterns".toList = none ∧ patterns = [] ∨
      ∃ kind, document.lookup "patterns".toList = some (.table kind (fragmentEntries patterns)) := by
    cases hx : document.lookup "patterns".toList with
    | none => exact ⟨[], .inl ⟨rfl, rfl⟩⟩
    | some x =>
      cases x with
      | table kind entries =>
        have hstring : ∀ e ∈ entries, ∃ s, e.2 = .string s := by
          intro e he
          by_contra hne
          exact hill (.fragment hx he (not_exists.1 hne))
        obtain ⟨patterns, rfl⟩ := exists_fragmentEntries_eq hstring
        exact ⟨patterns, .inr ⟨kind, rfl⟩⟩
      | dateTime d => exact absurd hx (hdate' d)
      | _ => exact absurd (.noFragments hx rfl) hill
  obtain ⟨o, ho⟩ := hsettings
  obtain ⟨patterns, hpatterns⟩ := hpatterns
  exact ⟨o, patterns, ho, hpatterns⟩

/-- The names of the fragments in a file are distinct. -/
theorem nodup_of_ofDocument? {file : SettingsFile} (hdocument : document.Distinct)
    (h : ofDocument? document = some file) : (file.patterns.map (·.1)).Nodup := by
  obtain ⟨-, hpatterns⟩ := ofDocument?_eq_some_iff.1 h
  cases hx : document.lookup "patterns".toList with
  | none =>
    rw [hx] at hpatterns
    rw [← Option.some.inj hpatterns]
    exact List.nodup_nil
  | some x =>
    rw [hx] at hpatterns
    have hkeys := Toml.Entries.nodup_of_entries? (hdocument.lookup hx) (patterns?_eq_some_iff.1 hpatterns)
    rwa [keys_fragmentEntries] at hkeys

end Documents

/-! ### Loading -/

/-- The text of what stands under a name, if it is one. -/
def textOf? : FileContent → Option (List Char)
  | .bytes b => (String.fromUTF8? b).map String.toList
  | .missing | .directory => none

theorem ofText?_of_not_isBlank {s : List Char} (h : ∃ c ∈ s, ¬ Unicode.isBlank c) :
    ofText? s = (Toml.parse? s).bind ofDocument? := by
  obtain ⟨c, hc, hblank⟩ := h
  have hs : isBlank s = false := List.all_eq_false.2 ⟨c, hc, hblank⟩
  rw [ofText?, hs]
  rfl

theorem load_eq_ok_iff {name s : List Char} {content : FileContent} {file : SettingsFile}
    (h : textOf? content = some s) : load name content = .ok file ↔ ofText? s = some file := by
  cases content with
  | missing | directory => cases h
  | bytes b =>
    obtain ⟨text, htext, rfl⟩ := Option.map_eq_some_iff.1 h
    cases hfile : ofText? text.toList <;> simp [load, htext, hfile]

theorem load_of_ofText?_eq_none {name s : List Char} {content : FileContent}
    (h : textOf? content = some s) (hs : ofText? s = none) :
    load name content = .error (.configParse name) := by
  cases content with
  | missing | directory => cases h
  | bytes b =>
    obtain ⟨text, htext, rfl⟩ := Option.map_eq_some_iff.1 h
    simp [load, htext, hs]

theorem nodup_of_ofText? {s : List Char} {file : SettingsFile} (h : ofText? s = some file) :
    (file.patterns.map (·.1)).Nodup := by
  unfold ofText? at h
  split at h
  · cases h
    exact List.nodup_nil
  · obtain ⟨document, hdocument, h⟩ := Option.bind_eq_some_iff.1 h
    exact nodup_of_ofDocument? (Toml.distinct_of_parse? hdocument) h

theorem load_of_describes {name s : List Char} {content : FileContent} {document : Toml.Entries}
    {o : Overrides} {patterns : List (List Char × List Char)} (hs : textOf? content = some s)
    (hblank : ∃ c ∈ s, ¬ Unicode.isBlank c) (hparse : Toml.parse? s = some document)
    (h : Describes document o patterns) :
    load name content = .ok ⟨Settings.standard.merge o, patterns⟩ := by
  rw [load_eq_ok_iff hs, ofText?_of_not_isBlank hblank, hparse, Option.bind_some, h.ofDocument?]

/-- The names of the fragments in a file that is loaded are distinct. -/
theorem nodup_of_load {name : List Char} {content : FileContent} {file : SettingsFile}
    (h : load name content = .ok file) : (file.patterns.map (·.1)).Nodup := by
  cases content with
  | missing =>
    cases h
    exact List.nodup_nil
  | directory => cases h
  | bytes b =>
    cases hb : String.fromUTF8? b with
    | none => simp [load, hb] at h
    | some text =>
      have htext : textOf? (.bytes b) = some text.toList := by simp [textOf?, hb]
      exact nodup_of_ofText? ((load_eq_ok_iff htext).1 h)

/-- A file lies over the standard settings and table, with the settings and the fragments that it
gives. -/
structure Overlays (file : SettingsFile) (o : Overrides) (patterns : List (List Char × List Char)) :
    Prop where
  settings : file.expander.settings = Settings.standard.merge o
  fragment : ∀ name, file.expander.table.get? name =
    (patterns.lookup name).or (FragmentTable.standard.get? name)
  /-- It does not matter in which order the fragments are written into the table. -/
  anyOrder : ∀ entries, entries.Perm file.patterns → ∀ name,
    (FragmentTable.standard.extend entries).get? name = file.expander.table.get? name

theorem overlays_of_nodup {o : Overrides} {patterns : List (List Char × List Char)}
    (h : (patterns.map (·.1)).Nodup) :
    Overlays ⟨Settings.standard.merge o, patterns⟩ o patterns where
  settings := rfl
  fragment := FragmentTable.get?_extend_of_nodup h
  anyOrder _ hperm name := (FragmentTable.get?_extend_of_perm h hperm.symm name).symm

/-- What loading gives for the file of a name, from what stands there. -/
structure Loaded (name : List Char) (content : FileContent) (result : Except Error SettingsFile) :
    Prop where
  empty : content = .missing ∨ (∃ s, textOf? content = some s ∧ ∀ c ∈ s, Unicode.isBlank c) →
    ∃ file, (Toml.parse? []).bind ofDocument? = some file ∧ result = .ok file
  directory : content = .directory → result = .error (.configRead name .directory)
  notText : ∀ b, content = .bytes b → String.fromUTF8? b = none →
    result = .error (.configRead name .notText)
  overlays : ∀ s document o patterns, textOf? content = some s → (∃ c ∈ s, ¬ Unicode.isBlank c) →
    Toml.parse? s = some document → Describes document o patterns →
    ∃ file, result = .ok file ∧ file.Overlays o patterns
  illTyped : ∀ s document, textOf? content = some s → (∃ c ∈ s, ¬ Unicode.isBlank c) →
    Toml.parse? s = some document → IllTyped document → result = .error (.configParse name)
  notToml : ∀ s, textOf? content = some s → (∃ c ∈ s, ¬ Unicode.isBlank c) →
    Toml.parse? s = none → result = .error (.configParse name)
  /-- Nothing else is left, unless an array or a date is read in a table's place. -/
  settled : ∀ s document, textOf? content = some s → Toml.parse? s = some document →
    (∀ items, document.lookup "expander".toList ≠ some (.array items)) →
    (∀ d, document.lookup "expander".toList ≠ some (.dateTime d)) →
    (∀ d, document.lookup "patterns".toList ≠ some (.dateTime d)) →
    (∃ o patterns, Describes document o patterns) ∨ IllTyped document

theorem load_overlays (name : List Char) (content : FileContent) :
    Loaded name content (load name content) where
  empty h := by
    have hempty : (Toml.parse? []).bind ofDocument? = some standard := by with_unfolding_all rfl
    refine ⟨standard, hempty, ?_⟩
    rcases h with rfl | ⟨s, hs, hblank⟩
    · rfl
    · have hs' : isBlank s := List.all_eq_true.2 hblank
      rw [load_eq_ok_iff hs, ofText?, if_pos hs']
  directory h := by
    subst h
    rfl
  notText b h hb := by
    subst h
    simp only [load, hb]
  overlays s document o patterns hs hblank hparse hdescribes := by
    have hload : load name content = .ok ⟨Settings.standard.merge o, patterns⟩ :=
      load_of_describes hs hblank hparse hdescribes
    exact ⟨_, hload, overlays_of_nodup (nodup_of_load hload)⟩
  illTyped s document hs hblank hparse hill := by
    refine load_of_ofText?_eq_none hs ?_
    rw [ofText?_of_not_isBlank hblank, hparse, Option.bind_some, hill.ofDocument?]
  notToml s hs hblank hparse := by
    refine load_of_ofText?_eq_none hs ?_
    rw [ofText?_of_not_isBlank hblank, hparse, Option.bind_none]
  settled _ _ _ _ harray hdate hdate' := describes_or_illTyped harray hdate hdate'

/-! ### Files as they are written -/

theorem textOf?_toUTF8 (text : String) : textOf? (.bytes text.toUTF8) = some text.toList := by
  have h : String.fromUTF8? text.toUTF8 = some text := by
    simp only [String.fromUTF8?, String.toUTF8_eq_toByteArray]
    exact dif_pos text.isValidUTF8
  rw [textOf?, h]
  rfl

/-- Two fragments, one of them for a standard name, and a setting after a key that is none. -/
def sampleText : String :=
  "[patterns]\nyy = '\\d\x7b2\x7d'\nyear = '\\d\x7b2\x7d'\n\n[expander]\nscale = 3\nappend_slash = false\n"

def samplePatterns : List (List Char × List Char) :=
  [("yy".toList, "\\d\x7b2\x7d".toList), ("year".toList, "\\d\x7b2\x7d".toList)]

def sampleDocument : Toml.Entries :=
  [("patterns".toList, .table .header (fragmentEntries samplePatterns)),
   ("expander".toList, .table .header
     [("scale".toList, .integer 3), ("append_slash".toList, .boolean false)])]

theorem parse?_sampleText : Toml.parse? sampleText.toList = some sampleDocument := by
  with_unfolding_all rfl

theorem describes_sampleDocument :
    Describes sampleDocument ⟨none, none, none, some false⟩ samplePatterns where
  settings := .inr ⟨_, _, rfl, rfl, rfl, rfl, rfl⟩
  patterns := .inr ⟨_, rfl⟩

/-- A switch that is neither on nor off. -/
def misgivenText : String := "[expander]\nanchor = \"sometimes\""

theorem load_overlays_of_sampleText :
    (∃ file, load defaultName (.bytes sampleText.toUTF8) = .ok file ∧
      file.Overlays ⟨none, none, none, some false⟩ samplePatterns) ∧
    load defaultName (.bytes misgivenText.toUTF8) = .error (.configParse defaultName) := by
  constructor
  · exact (load_overlays defaultName (.bytes sampleText.toUTF8)).overlays _ _ _ _
      (textOf?_toUTF8 _) ⟨'[', by decide, by decide⟩ parse?_sampleText describes_sampleDocument
  · refine (load_overlays defaultName (.bytes misgivenText.toUTF8)).illTyped misgivenText.toList
      [("expander".toList, .table .header [("anchor".toList, .string "sometimes".toList)])]
      (textOf?_toUTF8 _) ⟨'[', by decide, by decide⟩ (by with_unfolding_all rfl) ?_
    have hanchor : "anchor".toList ∈ switches := by decide
    exact .setting rfl (.switch hanchor rfl fun _ h => by cases h)

end SettingsFile

end RouteTemplate
