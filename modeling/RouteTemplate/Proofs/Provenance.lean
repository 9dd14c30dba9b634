import RouteTemplate.Proofs.Compiling
import RouteTemplate.Proofs.Framing
import RouteTemplate.Proofs.Naming
import RouteTemplate.Proofs.Words

/-!
Where the characters come from that the program writes. What it makes of a template, a table, a settings
file, a command line and a path has only the characters of these and the few that stand around groups and
patterns. So a character that is in none of them is in nothing that is written. The names of groups
consist of the characters that a name may have.
-/

namespace RouteTemplate

variable {c : Char}

/-! ### Expanders -/

namespace FragmentTable

/-- A character is in no name and in no fragment of a table. -/
def Lacks (t : FragmentTable) (c : Char) : Prop := ∀ e ∈ t.entries, c ∉ e.1 ∧ c ∉ e.2

theorem eq_or_mem_of_mem_put {name fragment : List Char} {entries : List (List Char × List Char)}
    {e : List Char × List Char} (h : e ∈ put name fragment entries) :
    e = (name, fragment) ∨ e ∈ entries := by
  induction entries with
  | nil => simpa [put] using h
  | cons d entries ih => by_cases hd : d.1 = name <;> grind [put]

namespace Lacks

variable {t : FragmentTable}

theorem insert (h : t.Lacks c) {name fragment : List Char} (hname : c ∉ name)
    (hfragment : c ∉ fragment) : (t.insert name fragment).Lacks c := by
  intro e he
  rcases eq_or_mem_of_mem_put he with rfl | he
  · exact ⟨hname, hfragment⟩
  · exact h e he

theorem extend {entries : List (List Char × List Char)} (h : t.Lacks c)
    (hentries : ∀ e ∈ entries, c ∉ e.1 ∧ c ∉ e.2) : (t.extend entries).Lacks c := by
  induction entries generalizing t with
  | nil => exact h
  | cons e entries ih =>
    rw [List.forall_mem_cons] at hentries
    exact ih (h.insert hentries.1.1 hentries.1.2) hentries.2

theorem of_get? (h : t.Lacks c) {name fragment : List Char} (hget : t.get? name = some fragment) :
    c ∉ fragment :=
  (h (name, fragment) (mem_of_lookup hget)).2

theorem resolve (h : t.Lacks c) {name default : List Char} {pattern : Option (List Char)}
    (hpattern : ∀ s ∈ pattern, c ∉ s) (hdefault : c ∉ default) :
    c ∉ t.resolve name pattern default := by
  have hgetD {key other : List Char} (hother : c ∉ other) : c ∉ (t.get? key).getD other := by
    cases hget : t.get? key with
    | none => exact hother
    | some fragment => exact h.of_get? hget
  cases pattern with
  | none => exact hgetD hdefault
  | some pattern => exact hgetD (hpattern pattern rfl)

end Lacks

end FragmentTable

/-- A placeholder has the characters of its parts. -/
theorem Placeholder.notMem_of_text {p : Placeholder} (h : c ∉ p.text) :
    c ∉ p.name ∧ ∀ s ∈ p.pattern, c ∉ s := by
  obtain ⟨name, pattern⟩ := p
  cases pattern <;> simp_all [text]

theorem notMem_substitute {table : FragmentTable} {default t : List Char}
    (hgroup : c ∉ "(?P<>)".toList) (htable : table.Lacks c) (hdefault : c ∉ default) (ht : c ∉ t) :
    c ∉ substitute table default t := by
  induction t using Placeholder.find?_induction with
  | literal t hfind => rwa [substitute_of_find?_eq_none _ _ hfind]
  | placeholder t before p rest hfind ih =>
    rw [Placeholder.eq_append_of_find? hfind, List.mem_append, List.mem_append, not_or, not_or] at ht
    obtain ⟨hbefore, hp, hrest⟩ := ht
    obtain ⟨hname, hpattern⟩ := Placeholder.notMem_of_text hp
    have hfragment : c ∉ table.resolve p.name p.pattern default := htable.resolve hpattern hdefault
    have hcapture : c ∉ p.captureGroup (table.resolve p.name p.pattern default) := by
      simp only [Placeholder.captureGroup, List.mem_append, List.mem_cons, not_or] at hgroup ⊢
      simp_all
    rw [substitute_of_find? _ _ hfind]
    simp only [List.mem_append, not_or]
    exact ⟨hbefore, hcapture, ih hrest⟩

namespace Expander

/-- A character is in nothing that an expander may put into a pattern. -/
structure Lacks (e : Expander) (c : Char) : Prop where
  table : e.table.Lacks c
  defaultFragment : c ∉ e.settings.defaultFragment

theorem Lacks.expand {e : Expander} {t : List Char} {o : Overrides} (h : e.Lacks c)
    (hgroup : c ∉ "(?P<>)".toList) (hframe : c ∉ "^/$".toList)
    (ho : ∀ fragment ∈ o.defaultFragment, c ∉ fragment) (ht : c ∉ t) : c ∉ e.expand t o := by
  have hdefault : c ∉ (e.settings.merge o).defaultFragment := by
    rw [Settings.merge]
    cases hfragment : o.defaultFragment with
    | none => exact h.defaultFragment
    | some fragment => exact ho fragment hfragment
  have hput (p : Prop) [Decidable p] {d : Char} (hd : d ∈ "^/$".toList) :
      c ∉ if p then [d] else [] := by
    split
    · exact fun hmem => hframe (List.mem_singleton.1 hmem ▸ hd)
    · exact List.not_mem_nil
  rw [expand_eq_append]
  simp only [List.mem_append, not_or]
  exact ⟨⟨⟨hput _ (by decide), notMem_substitute hgroup h.table hdefault ht⟩, hput _ (by decide)⟩,
    hput _ (by decide)⟩

end Expander

/-! ### Names of groups -/

namespace Regex

variable {s rest name : List Char} {ts : List Token}

theorem isGroupName_of_readGroupName (h : readGroupName s = .ok (name, rest)) : isGroupName name := by
  unfold readGroupName at h
  dsimp only at h
  split at h
  · split at h
    next hname =>
      cases h
      exact hname
    · cases h
  · cases h

theorem isGroupName_of_readToken {ignore : Bool}
    (h : readToken ignore c s = .ok (.openGroup (.capture (some name)), rest)) : isGroupName name := by
  unfold readToken at h
  split at h
  case h_1 =>
    unfold readOpening at h
    split at h
    case h_5 | h_6 =>
      obtain ⟨⟨found, r⟩, hfound, h⟩ := eq_ok_of_map_eq_ok h
      cases h
      exact isGroupName_of_readGroupName hfound
    case h_7 =>
      split at h
      · cases h
      · cases h
      · split at h <;> cases h
    all_goals cases h
  case h_7 | h_8 | h_9 =>
    obtain ⟨_, -, h⟩ := eq_ok_of_map_eq_ok h
    cases h
  all_goals cases h

theorem isGroupName_of_mem_tokens {ignore : Bool} {outer : List Bool}
    (h : tokens ignore outer s = .ok ts) (hmem : Token.openGroup (.capture (some name)) ∈ ts) :
    isGroupName name := by
  fun_induction tokens ignore outer s generalizing ts with
  | case1 =>
    cases h
    cases hmem
  | case2 => cases h
  | case3 ignore outer s c r hs t rest ht after =>
    rename_i ih
    obtain ⟨others, hothers, rfl⟩ := eq_ok_of_map_eq_ok h
    rcases List.mem_cons.1 hmem with rfl | hmem
    · exact isGroupName_of_readToken ht
    · exact ih hothers hmem

/-- Every named group that is open or done was opened by a token. -/
theorem Assembly.mem_opened {a a' : Assembly} {i : Nat} (h : ts.foldlM Assembly.take a = .ok a')
    (hmem : (i, some name) ∈ a'.opened) :
    (i, some name) ∈ a.opened ∨ Token.openGroup (.capture (some name)) ∈ ts := by
  induction ts generalizing a with
  | nil =>
    cases h
    exact .inl hmem
  | cons t ts ih =>
    rw [List.foldlM_cons] at h
    obtain ⟨b, hb, h⟩ := eq_ok_of_bind_eq_ok h
    rcases ih h with hmem | hmem
    · rcases Assembly.opened_take hb with ⟨-, -, hperm⟩ | ⟨name?, rfl, -, -, -, hperm⟩
      · exact .inl (hperm.mem_iff.1 hmem)
      · rcases List.mem_cons.1 (hperm.mem_iff.1 hmem) with heq | hmem
        · obtain ⟨-, rfl⟩ := Prod.mk.inj heq
          exact .inr List.mem_cons_self
        · exact .inl hmem
    · exact .inr (List.mem_cons_of_mem t hmem)

theorem isGroupName_of_mem_groups {n : Node} {i : Nat} (h : Node.parse s = .ok n)
    (hmem : (i, some name) ∈ n.groups) : isGroupName name := by
  obtain ⟨ts, a, hts, ha, hopened⟩ := exists_opened_of_parse h
  rcases Assembly.mem_opened ha (hopened.subset hmem) with hmem | hmem
  · cases hmem
  · exact isGroupName_of_mem_tokens hts hmem

theorem isNameChar_of_isGroupName (h : isGroupName name) (hc : c ∈ name) : isNameChar false c := by
  cases name with
  | nil => cases hc
  | cons d r =>
    simp only [isGroupName, Bool.and_eq_true, List.all_eq_true] at h
    rcases List.mem_cons.1 hc with rfl | hc
    · have hfirst := h.1
      simp only [isNameChar, if_true, Bool.or_eq_true] at hfirst ⊢
      rcases hfirst with hunderscore | halphabetic
      · simp [hunderscore]
      · simp [Unicode.isAlphanumeric, halphabetic]
    · exact h.2 c hc

end Regex

namespace Route

variable {e : Expander} {t path name v : List Char} {o : Overrides} {r : Route}

theorem isNameChar_of_mem_names [Regex.SizeLimit] (h : e.route t o = .ok r) (hname : name ∈ r.names)
    (hc : c ∈ name) : Regex.isNameChar false c := by
  obtain ⟨n, hn, -, rfl⟩ := Expander.route_eq_ok_iff.1 h
  rw [names, Regex.names_ofNode, List.mem_map] at hname
  obtain ⟨⟨i, name⟩, hi, rfl⟩ := hname
  have hgroup := (Regex.Node.mem_named (Regex.distinct_of_parse hn)).1 hi
  exact Regex.isNameChar_of_isGroupName (Regex.isGroupName_of_mem_groups hn hgroup) hc

/-- What is captured is made of the characters of the path. -/
theorem mem_of_mem_captures {captured : List (List Char × List Char)}
    (h : r.captures path = some captured) (hv : (name, v) ∈ captured) (hc : c ∈ v) : c ∈ path := by
  obtain ⟨m, hm, rfl⟩ := Option.map_eq_some_iff.1 h
  obtain ⟨marks, -, rfl⟩ := Option.map_eq_some_iff.1 hm
  obtain ⟨⟨name?, g⟩, -, hg⟩ := List.mem_filterMap.1 hv
  obtain ⟨_, -, hg⟩ := Option.bind_eq_some_iff.1 hg
  obtain ⟨w, hw, hg⟩ := Option.bind_eq_some_iff.1 hg
  cases hg
  obtain ⟨⟨start, stop⟩, -, rfl⟩ := Option.map_eq_some_iff.1 hw
  simp only [Array.toList_extract, List.extract_eq_take_drop] at hc
  exact List.mem_of_mem_drop (List.mem_of_mem_take hc)

end Route

/-! ### Command lines -/

namespace CommandLine

/-- A character is in no text that has been given. -/
structure Given.Lacks (g : Given) (c : Char) : Prop where
  default : ∀ s ∈ g.default, c ∉ s
  patterns : ∀ s ∈ g.patterns, c ∉ s
  operands : ∀ s ∈ g.operands, c ∉ s

structure Options.Lacks (o : Options) (c : Char) : Prop where
  default : ∀ s ∈ o.default, c ∉ s
  patterns : ∀ s ∈ o.patterns, c ∉ s

/-- A character is in no text that a command is given. -/
def Command.Lacks (c : Char) : Command → Prop
  | .expand templates o => (∀ t ∈ templates, c ∉ t) ∧ o.Lacks c
  | .patterns => True
  | .tryMatch template path o => c ∉ template ∧ c ∉ path ∧ o.Lacks c

namespace Given

variable {g g' : Given}

theorem lacks_nothing : nothing.Lacks c :=
  ⟨by simp [nothing], by simp [nothing], by simp [nothing]⟩

theorem lacks_of_turn {s : Switch} (h : g.turn s = some g') (hg : g.Lacks c) : g'.Lacks c := by
  simp only [Given.turn, Option.ite_none_left_eq_some] at h
  obtain ⟨-, h⟩ := h
  cases h
  exact ⟨hg.default, hg.patterns, hg.operands⟩

theorem lacks_of_set {value : List Char} {s : Setting} (hvalue : c ∉ value)
    (h : g.set value s = some g') (hg : g.Lacks c) : g'.Lacks c := by
  cases s with
  | config =>
    simp only [Given.set, Option.ite_none_left_eq_some] at h
    obtain ⟨-, h⟩ := h
    cases h
    exact ⟨hg.default, hg.patterns, hg.operands⟩
  | default =>
    simp only [Given.set, Option.ite_none_left_eq_some] at h
    obtain ⟨-, h⟩ := h
    cases h
    exact ⟨by simpa using hvalue, hg.patterns, hg.operands⟩
  | pattern =>
    cases h
    refine ⟨hg.default, fun s hs => ?_, hg.operands⟩
    rcases List.mem_append.1 hs with hs | hs
    · exact hg.patterns s hs
    · rwa [List.mem_singleton.1 hs]

theorem keeps_lacks {words : List (List Char)} (hwords : ∀ w ∈ words, c ∉ w) :
    Keeps (Lacks · c) words where
  operands g operands hsub hg := by
    refine ⟨hg.default, hg.patterns, fun s hs => ?_⟩
    rcases List.mem_append.1 hs with hs | hs
    · exact hg.operands s hs
    · exact hwords s (hsub hs)
  turn _ _ _ := lacks_of_turn
  set _ _ w _ _ hw hvalue := lacks_of_set fun hc => hwords w hw (hvalue hc)

end Given

theorem Command.lacks_of_ofGiven {name : List Char} {g : Given} {command : Command} (hg : g.Lacks c)
    (h : Command.ofGiven name g = some command) : command.Lacks c := by
  have hoptions : Options.Lacks ⟨g.switches, g.default, g.patterns⟩ c := ⟨hg.default, hg.patterns⟩
  have hoperands := hg.operands
  unfold Command.ofGiven at h
  split at h
  next template templates _ heq =>
    cases h
    rw [heq] at hoperands
    exact ⟨hoperands, hoptions⟩
  next =>
    dsimp only at h
    split at h <;> cases h
    trivial
  next template path _ heq =>
    cases h
    simp only [heq, List.forall_mem_cons] at hoperands
    exact ⟨hoperands.1, hoperands.2.1, hoptions⟩
  next => cases h

/-- A character that is in no word is in no text of the command that is to be run. -/
theorem Request.lacks_of_read {config : Option (List Char)} {words : List (List Char)}
    {file : List Char} {command : Command} (hwords : ∀ w ∈ words, c ∉ w)
    (h : Request.read config words = some (.run file command)) : command.Lacks c := by
  obtain ⟨first, given, name, g, hsub, hg, hcommand, -⟩ := Request.exists_given_of_read h
  have hkeeps := Given.keeps_lacks fun w hw => hwords w (hsub hw)
  exact Command.lacks_of_ofGiven (hkeeps.read Given.lacks_nothing hg) hcommand

/-! ### Loaded expanders -/

theorem lacks_of_addEntry {e e' : Expander} {entry : List Char} (he : e.Lacks c) (hentry : c ∉ entry)
    (h : addEntry e entry = .ok e') : e'.Lacks c := by
  unfold addEntry at h
  split at h
  next name fragment hparse =>
    cases h
    unfold parseEntry? at hparse
    split at hparse
    next heq =>
      split at hparse <;> cases hparse
      obtain ⟨hname, hfragment⟩ := Word.subset_of_splitAtEquals heq
      exact ⟨he.table.insert (fun hc => hentry (hname hc)) fun hc => hentry (hfragment hc),
        he.defaultFragment⟩
    next => cases hparse
  next => cases h

theorem lacks_of_foldlM_addEntry {entries : List (List Char)} {e e' : Expander} (he : e.Lacks c)
    (hentries : ∀ entry ∈ entries, c ∉ entry) (h : entries.foldlM addEntry e = .ok e') :
    e'.Lacks c := by
  induction entries generalizing e with
  | nil =>
    cases h
    exact he
  | cons entry entries ih =>
    rw [List.forall_mem_cons] at hentries
    rw [List.foldlM_cons] at h
    obtain ⟨f, hf, h⟩ := Regex.eq_ok_of_bind_eq_ok h
    exact ih (lacks_of_addEntry he hentries.1 hf) hentries.2 h

end CommandLine

/-- A character is in no name and in no fragment of a settings file. -/
structure SettingsFile.Lacks (file : SettingsFile) (c : Char) : Prop where
  patterns : ∀ e ∈ file.patterns, c ∉ e.1 ∧ c ∉ e.2
  defaultFragment : c ∉ file.settings.defaultFragment

/-- An expander that is loaded has no character but those of the standard table, of the settings file
and of the entries. -/
theorem CommandLine.lacks_of_loadExpander {file : List Char} {content : FileContent} {o : Options}
    {e : Expander} (hstandard : FragmentTable.standard.Lacks c)
    (hfile : ∀ loaded, SettingsFile.load file content = .ok loaded → loaded.Lacks c)
    (ho : o.Lacks c) (h : loadExpander file content o = .ok e) : e.Lacks c := by
  cases hload : SettingsFile.load file content with
  | error err =>
    rw [loadExpander_of_error hload] at h
    cases h
  | ok loaded =>
    rw [loadExpander_of_ok hload] at h
    have hloaded := hfile loaded hload
    exact lacks_of_foldlM_addEntry
      ⟨hstandard.extend hloaded.patterns, hloaded.defaultFragment⟩ ho.patterns h

end RouteTemplate
