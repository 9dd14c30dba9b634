import RouteTemplate.CommandLine.Run
import RouteTemplate.Proofs.Overlay
import RouteTemplate.Proofs.Rewriting

/-!
The command that expands templates. It writes the expansions by one expander, whose fragments are those
of the command line over those of the settings file over the standard ones, and whose settings are those
of the file but for what the command line leaves out or replaces. An entry that is not valid, or a file
that cannot be loaded, leaves nothing written.
-/

namespace RouteTemplate.CommandLine

/-! ### Entries -/

/-- An entry is a name and a fragment with an equals sign between them. -/
structure Denotes (entry : List Char) (e : List Char × List Char) : Prop where
  eq : entry = e.1 ++ '=' :: e.2
  nonempty : e.1 ≠ []
  word : ∀ c ∈ e.1, Unicode.isAlphanumeric c ∨ c = '_'

theorem Denotes.notMem {entry : List Char} {e : List Char × List Char} (h : Denotes entry e) :
    '=' ∉ e.1 := by
  intro hmem
  rcases h.word _ hmem with hc | hc
  · rw [Unicode.isAlphanumeric_of_lt (by decide)] at hc
    exact absurd hc (by decide)
  · exact absurd hc (by decide)

theorem Word.splitAtEquals_append {name : List Char} (h : '=' ∉ name) (value : List Char) :
    Word.splitAtEquals (name ++ '=' :: value) = (name, some value) := by
  have hname : ∀ c ∈ name, decide (c ≠ '=') = true := by
    intro c hc
    exact decide_eq_true fun heq => h (heq ▸ hc)
  have hdrop : (name ++ '=' :: value).dropWhile (· ≠ '=') = '=' :: value := by
    rw [List.dropWhile_append_of_pos hname]
    rfl
  have htake : (name ++ '=' :: value).takeWhile (· ≠ '=') = name := by
    rw [List.takeWhile_append_of_pos hname]
    simp
  simp only [splitAtEquals, hdrop, htake]

theorem Word.eq_of_splitAtEquals {s name value : List Char}
    (h : Word.splitAtEquals s = (name, some value)) : s = name ++ '=' :: value := by
  unfold splitAtEquals at h
  split at h
  · cases h
  next c r hdrop =>
    cases h
    have hc : c = '=' := by
      have hstop := List.head?_dropWhile_not (· ≠ '=') s
      rw [hdrop] at hstop
      simpa using hstop
    subst hc
    rw [← hdrop]
    exact List.takeWhile_append_dropWhile.symm

theorem denotes_iff {entry : List Char} {e : List Char × List Char} :
    Denotes entry e ↔ parseEntry? entry = some e := by
  unfold parseEntry?
  constructor
  · intro h
    have hname : (!e.1.isEmpty && e.1.all fun c => Unicode.isAlphanumeric c || c = '_') = true := by
      simpa using ⟨h.nonempty, h.word⟩
    rw [h.eq, Word.splitAtEquals_append h.notMem]
    exact if_pos hname
  · intro h
    split at h
    next name fragment hsplit =>
      split at h
      next hname =>
        cases h
        simp only [Bool.and_eq_true, Bool.not_eq_true', List.isEmpty_eq_false_iff, List.all_eq_true,
          Bool.or_eq_true, decide_eq_true_eq] at hname
        exact ⟨Word.eq_of_splitAtEquals hsplit, hname.1, hname.2⟩
      · cases h
    · cases h

theorem foldlM_addEntry_of_valid {patterns : List (List Char)}
    {entries : List (List Char × List Char)} (h : List.Forall₂ Denotes patterns entries) (e : Expander) :
    patterns.foldlM addEntry e = .ok { e with table := e.table.extend entries } := by
  induction h generalizing e with
  | nil => rfl
  | @cons entry d patterns entries hd h ih =>
    have hadd : addEntry e entry = .ok (e.insert d.1 d.2) := by
      rw [addEntry, denotes_iff.1 hd]
    rw [List.foldlM_cons, hadd]
    exact ih _

theorem foldlM_addEntry_of_invalid {valid rest : List (List Char)} {entry : List Char}
    {entries : List (List Char × List Char)} (h : List.Forall₂ Denotes valid entries)
    (hentry : ∀ d, ¬ Denotes entry d) (e : Expander) :
    (valid ++ entry :: rest).foldlM addEntry e = .error (.entry entry) := by
  have hadd (e : Expander) : addEntry e entry = .error (.entry entry) := by
    have hnone : parseEntry? entry = none :=
      Option.eq_none_iff_forall_ne_some.2 fun d hd => hentry d (denotes_iff.2 hd)
    rw [addEntry, hnone]
  rw [List.foldlM_append, foldlM_addEntry_of_valid h]
  change (entry :: rest).foldlM addEntry { e with table := e.table.extend entries } = _
  rw [List.foldlM_cons, hadd]
  rfl

/-- Entries are all valid, or there is a first one that is not. -/
theorem valid_or_first_invalid (patterns : List (List Char)) :
    (∃ entries, List.Forall₂ Denotes patterns entries) ∨
      ∃ valid entry rest entries, patterns = valid ++ entry :: rest ∧
        List.Forall₂ Denotes valid entries ∧ ∀ d, ¬ Denotes entry d := by
  induction patterns with
  | nil => exact .inl ⟨[], .nil⟩
  | cons entry patterns ih =>
    by_cases hentry : ∃ d, Denotes entry d
    · obtain ⟨d, hd⟩ := hentry
      rcases ih with ⟨entries, h⟩ | ⟨valid, other, rest, entries, rfl, hvalid, hother⟩
      · exact .inl ⟨d :: entries, .cons hd h⟩
      · exact .inr ⟨entry :: valid, other, rest, d :: entries, rfl, .cons hd hvalid, hother⟩
    · exact .inr ⟨[], entry, patterns, [], rfl, .nil, not_exists.1 hentry⟩

/-! ### Words -/

/-- The word that turns something off. -/
def Switch.word : Switch → List Char
  | .noAnchor => "--no-anchor".toList
  | .noTerminate => "--no-terminate".toList
  | .noSlash => "--no-slash".toList

/-- A command line that asks for templates to be expanded. -/
def expandWords (file : List Char) (templates : List (List Char)) (o : Options) : List (List Char) :=
  ("--config=".toList ++ file) :: "expand".toList :: o.switches.map Switch.word ++
    o.default.toList.map ("--default=".toList ++ ·) ++ o.patterns.map ("--pattern=".toList ++ ·) ++
    "--".toList :: templates

theorem ofText_switch (s : Switch) : Word.ofText s.word = .switch s := by
  cases s <;> rfl

theorem ofText_config (file : List Char) :
    Word.ofText ("--config=".toList ++ file) = .setting .config (some file) :=
  rfl

theorem ofText_default (fragment : List Char) :
    Word.ofText ("--default=".toList ++ fragment) = .setting .default (some fragment) :=
  rfl

theorem ofText_pattern (entry : List Char) :
    Word.ofText ("--pattern=".toList ++ entry) = .setting .pattern (some entry) :=
  rfl

namespace Given

theorem read_switches {g : Given} {switches : List Switch} (h : (g.switches ++ switches).Nodup)
    (words : List (List Char)) :
    g.read (switches.map Switch.word ++ words) =
      Given.read { g with switches := g.switches ++ switches } words := by
  induction switches generalizing g with
  | nil => simp
  | cons s switches ih =>
    have hs : s ∉ g.switches := by
      intro hmem
      exact List.disjoint_of_nodup_append h hmem List.mem_cons_self
    have hturn : g.turn s = some { g with switches := g.switches ++ [s] } := by
      rw [turn, if_neg (by simpa using hs)]
    rw [List.map_cons, List.cons_append, read, ofText_switch]
    simp only [hturn, Option.bind_eq_bind, Option.bind_some]
    rw [ih (by simpa using h)]
    simp

theorem read_default {g : Given} (h : g.default = none) (default : Option (List Char))
    (words : List (List Char)) :
    g.read (default.toList.map ("--default=".toList ++ ·) ++ words) =
      Given.read { g with default := default } words := by
  cases default with
  | none =>
    obtain ⟨config, switches, _, patterns, operands⟩ := g
    subst h
    rfl
  | some fragment =>
    have hset : g.set fragment .default = some { g with default := some fragment } := by
      simp [set, h]
    rw [Option.toList_some, List.map_singleton, List.singleton_append, read, ofText_default]
    simp only [hset, Option.bind_eq_bind, Option.bind_some]

theorem read_patterns (g : Given) (patterns : List (List Char)) (words : List (List Char)) :
    g.read (patterns.map ("--pattern=".toList ++ ·) ++ words) =
      Given.read { g with patterns := g.patterns ++ patterns } words := by
  induction patterns generalizing g with
  | nil => simp
  | cons entry patterns ih =>
    rw [List.map_cons, List.cons_append, read, ofText_pattern]
    simp only [set, Option.bind_eq_bind, Option.bind_some]
    rw [ih]
    simp

theorem read_operands (g : Given) (operands : List (List Char)) :
    g.read ("--".toList :: operands) = some { g with operands := g.operands ++ operands } :=
  rfl

end Given

theorem read_command {config : Option (List Char)} {w name : List Char} {words : List (List Char)}
    {g : Given} {command : Command} (hw : Word.ofText w = .operand name)
    (hg : Given.nothing.read words = some g) (hcommand : Command.ofGiven name g = some command) :
    Request.read config (w :: words) =
      some (.run ((g.config.or config).getD SettingsFile.defaultName) command) := by
  unfold Request.read
  simp only [hw, hg, hcommand, Option.bind_eq_bind, Option.bind_some]

/-- A command can be given every file, every combination of switches and settings, and its operands. -/
theorem ofWords_command {file name : List Char} {operands : List (List Char)} {o : Options}
    {command : Command} (hfile : file ≠ []) (hswitches : o.switches.Nodup)
    (hname : Word.ofText name = .operand name)
    (hcommand : Command.ofGiven name ⟨none, o.switches, o.default, o.patterns, operands⟩ =
      some command) :
    Request.ofWords (("--config=".toList ++ file) :: name :: o.switches.map Switch.word ++
      o.default.toList.map ("--default=".toList ++ ·) ++ o.patterns.map ("--pattern=".toList ++ ·) ++
      "--".toList :: operands) = some (.run file command) := by
  have hread : Given.nothing.read (o.switches.map Switch.word ++
      o.default.toList.map ("--default=".toList ++ ·) ++ o.patterns.map ("--pattern=".toList ++ ·) ++
      "--".toList :: operands) = some ⟨none, o.switches, o.default, o.patterns, operands⟩ := by
    rw [List.append_assoc, List.append_assoc, Given.read_switches (by simpa [Given.nothing]),
      Given.read_default rfl, Given.read_patterns, Given.read_operands]
    simp [Given.nothing]
  have hempty : file.isEmpty = false := List.isEmpty_eq_false_iff.2 hfile
  rw [Request.ofWords]
  simp only [List.cons_append]
  rw [Request.read, ofText_config]
  simp only [Option.isSome_none, hempty, Bool.or_self, Bool.false_eq_true, if_false]
  exact read_command hname hread hcommand

/-- Every combination of a file, templates, switches and settings can be asked for. -/
theorem ofWords_expandWords {file : List Char} {templates : List (List Char)} {o : Options}
    (hfile : file ≠ []) (htemplates : templates ≠ []) (hswitches : o.switches.Nodup) :
    Request.ofWords (expandWords file templates o) = some (.run file (.expand templates o)) := by
  obtain ⟨template, templates, rfl⟩ := List.exists_cons_of_ne_nil htemplates
  exact ofWords_command hfile hswitches rfl rfl

/-! ### The expander of a command line -/

/-- An expander has the fragments of a command line over those of a file over the standard ones, and the
settings of the file but for what the command line leaves out or replaces. -/
structure Layered (e : Expander) (file : SettingsFile) (entries : List (List Char × List Char))
    (o : Options) : Prop where
  fragment : ∀ name, e.table.get? name = (entries.reverse.lookup name).or
    ((file.patterns.lookup name).or (FragmentTable.standard.get? name))
  defaultFragment : e.settings.defaultFragment = o.default.getD file.settings.defaultFragment
  anchor : e.settings.anchor = (file.settings.anchor && !o.switches.contains .noAnchor)
  terminate : e.settings.terminate = (file.settings.terminate && !o.switches.contains .noTerminate)
  appendSlash : e.settings.appendSlash = (file.settings.appendSlash && !o.switches.contains .noSlash)

section Layered

variable {e f : Expander} {file : SettingsFile} {entries : List (List Char × List Char)} {o : Options}

/-- What a command line leaves out is off, and all else is as the file has it. -/
theorem getD_if_some_false (off setting : Bool) :
    (if off then some false else none).getD setting = (setting && !off) := by
  cases off <;> simp

theorem layered (h : (file.patterns.map (·.1)).Nodup) :
    Layered ⟨file.expander.table.extend entries, file.settings.merge o.overrides⟩ file entries o where
  fragment name := by
    rw [FragmentTable.get?_extend]
    exact congrArg _ (FragmentTable.get?_extend_of_nodup h name)
  defaultFragment := rfl
  anchor := getD_if_some_false _ _
  terminate := getD_if_some_false _ _
  appendSlash := getD_if_some_false _ _

theorem Layered.settings_eq (h : Layered e file entries o) :
    e.settings = file.settings.merge o.overrides := by
  have hlayered : e.settings = ⟨o.default.getD file.settings.defaultFragment,
      file.settings.anchor && !o.switches.contains .noAnchor,
      file.settings.terminate && !o.switches.contains .noTerminate,
      file.settings.appendSlash && !o.switches.contains .noSlash⟩ := by
    rw [← h.defaultFragment, ← h.anchor, ← h.terminate, ← h.appendSlash]
  rw [hlayered, ← getD_if_some_false, ← getD_if_some_false, ← getD_if_some_false]
  rfl

/-- Expanders that are layered in the same way expand every template to the same pattern. -/
theorem Layered.expand_eq (he : Layered e file entries o) (hf : Layered f file entries o)
    (template : List Char) : e.expand template .none = f.expand template .none := by
  refine Expander.expand_congr (fun name => ?_) (he.settings_eq.trans hf.settings_eq.symm) template _
  rw [he.fragment, hf.fragment]

/-- Entries under distinct names may stand in any order. -/
theorem Layered.of_perm {entries' : List (List Char × List Char)} (h : Layered e file entries o)
    (hnodup : (entries.map (·.1)).Nodup) (hperm : entries.Perm entries')
    (patterns : List (List Char)) : Layered e file entries' { o with patterns } where
  fragment name := by
    have hnodup' : (entries.reverse.map (·.1)).Nodup := by
      rw [List.map_reverse]
      exact List.nodup_reverse.2 hnodup
    have hperm' : entries.reverse.Perm entries'.reverse :=
      entries.reverse_perm.trans (hperm.trans entries'.reverse_perm.symm)
    rw [h.fragment, lookup_eq_of_perm hnodup' hperm']
  defaultFragment := h.defaultFragment
  anchor := h.anchor
  terminate := h.terminate
  appendSlash := h.appendSlash

end Layered

/-! ### Loading -/

section Loading

variable {file : List Char} {content : FileContent} {o : Options}

theorem loadExpander_of_error {err : Error} (h : SettingsFile.load file content = .error err) :
    loadExpander file content o = .error (.config file) := by
  rw [loadExpander, h]
  rfl

theorem loadExpander_of_ok {loaded : SettingsFile} (h : SettingsFile.load file content = .ok loaded) :
    loadExpander file content o = o.patterns.foldlM addEntry loaded.expander := by
  rw [loadExpander, h]
  rfl

/-- The first entry that is not valid is what is wrong with the entries. -/
theorem exists_loadExpander_error {loaded : SettingsFile}
    (hload : SettingsFile.load file content = .ok loaded)
    (hinvalid : ¬ ∃ entries, List.Forall₂ Denotes o.patterns entries) :
    ∃ valid entry rest entries, o.patterns = valid ++ entry :: rest ∧
      List.Forall₂ Denotes valid entries ∧ (∀ d, ¬ Denotes entry d) ∧
      loadExpander file content o = .error (.entry entry) := by
  obtain ⟨valid, entry, rest, entries, hpatterns, hvalid, hentry⟩ :=
    (valid_or_first_invalid o.patterns).resolve_left hinvalid
  refine ⟨valid, entry, rest, entries, hpatterns, hvalid, hentry, ?_⟩
  rw [loadExpander_of_ok hload, hpatterns]
  exact foldlM_addEntry_of_invalid hvalid hentry _

/-- What is loaded expands, with what a command line replaces, as an expander that is layered does. -/
theorem Layered.exists_loadExpander {e : Expander} {loaded : SettingsFile}
    {entries : List (List Char × List Char)} (he : Layered e loaded entries o)
    (hload : SettingsFile.load file content = .ok loaded)
    (hentries : List.Forall₂ Denotes o.patterns entries) :
    ∃ e', loadExpander file content o = .ok e' ∧
      ∀ template, e'.expand template o.overrides = e.expand template .none := by
  refine ⟨⟨loaded.expander.table.extend entries, loaded.settings⟩, ?_, fun template => ?_⟩
  · rw [loadExpander_of_ok hload, foldlM_addEntry_of_valid hentries]
    rfl
  · rw [he.expand_eq (layered (SettingsFile.nodup_of_load hload))]
    rfl

end Loading

/-! ### The outcome -/

/-- How the command ends, with a settings file of some content. -/
structure Ends (file : List Char) (content : FileContent) (templates : List (List Char)) (o : Options)
    (outcome : Outcome) : Prop where
  expanded : ∀ loaded entries, SettingsFile.load file content = .ok loaded →
    List.Forall₂ Denotes o.patterns entries →
    (∃ e, Layered e loaded entries o) ∧ ∀ e, Layered e loaded entries o →
      outcome = ⟨0, templates.flatMap fun template => e.expand template .none ++ ['\n'], none⟩
  notLoaded : ∀ err, SettingsFile.load file content = .error err →
    outcome = ⟨1, [], some ("Error: ".toList ++ (Failure.config file).message)⟩
  invalid : ∀ loaded, SettingsFile.load file content = .ok loaded →
    (¬ ∃ entries, List.Forall₂ Denotes o.patterns entries) →
    ∃ valid entry rest entries, o.patterns = valid ++ entry :: rest ∧
      List.Forall₂ Denotes valid entries ∧ (∀ d, ¬ Denotes entry d) ∧
      outcome = ⟨1, [], some ("Error: ".toList ++ (Failure.entry entry).message)⟩

theorem ends_expand [Regex.SizeLimit] (coloured : Bool) (file : List Char) (content : FileContent)
    (templates : List (List Char)) (o : Options) :
    Ends file content templates o
      ((Command.expand templates o).run coloured file content).outcome where
  expanded loaded entries hload hentries := by
    refine ⟨⟨_, layered (SettingsFile.nodup_of_load hload)⟩, fun e he => ?_⟩
    obtain ⟨e', hloaded, hexpand⟩ := he.exists_loadExpander hload hentries
    have hwritten : expandAll e' templates o.overrides =
        templates.flatMap fun template => e.expand template .none ++ ['\n'] := by
      refine List.flatMap_congr fun template _ => ?_
      rw [hexpand]
      rfl
    rw [Command.run, hloaded, ← hwritten]
    rfl
  notLoaded err hload := by
    rw [Command.run, loadExpander_of_error hload]
    rfl
  invalid loaded hload hinvalid := by
    obtain ⟨valid, entry, rest, entries, hpatterns, hvalid, hentry, hfailed⟩ :=
      exists_loadExpander_error hload hinvalid
    refine ⟨valid, entry, rest, entries, hpatterns, hvalid, hentry, ?_⟩
    rw [Command.run, hfailed]
    rfl

/-- What the program does when templates are to be expanded: every combination of a file, templates,
switches and entries can be asked for, the command ends as it should, and entries under distinct names
may stand in any order. -/
theorem run_expand [Regex.SizeLimit] (coloured : Bool) (contentOf : List Char → FileContent)
    (file : List Char) (templates : List (List Char)) (o : Options) :
    (file ≠ [] → templates ≠ [] → o.switches.Nodup →
      ∃ words, Request.ofWords words = some (.run file (.expand templates o))) ∧
    ∀ words, Request.ofWords words = some (.run file (.expand templates o)) →
      Ends file (contentOf file) templates o (run coloured contentOf words) ∧
      ∀ words' patterns entries,
        Request.ofWords words' = some (.run file (.expand templates { o with patterns })) →
        o.patterns.Perm patterns → List.Forall₂ Denotes o.patterns entries →
        (entries.map (·.1)).Nodup → run coloured contentOf words' = run coloured contentOf words := by
  have hrun {words : List (List Char)} {command : Command}
      (h : Request.ofWords words = some (.run file command)) :
      run coloured contentOf words = (command.run coloured file (contentOf file)).outcome := by
    rw [run, h]
  refine ⟨fun hfile htemplates hswitches =>
    ⟨_, ofWords_expandWords hfile htemplates hswitches⟩, fun words hwords => ?_⟩
  have hends := ends_expand coloured file (contentOf file) templates o
  rw [hrun hwords]
  refine ⟨hends, fun words' patterns entries hwords' hperm hentries hnodup => ?_⟩
  have hends' := ends_expand coloured file (contentOf file) templates { o with patterns }
  rw [hrun hwords']
  cases hload : SettingsFile.load file (contentOf file) with
  | error err => rw [hends.notLoaded err hload, hends'.notLoaded err hload]
  | ok loaded =>
    obtain ⟨entries', hentries', hperm'⟩ := List.perm_comp_forall₂ hperm.symm hentries
    obtain ⟨⟨e, he⟩, houtcome⟩ := hends.expanded loaded entries hload hentries
    obtain ⟨-, houtcome'⟩ := hends'.expanded loaded entries' hload hentries'
    rw [houtcome e he, houtcome' e (he.of_perm hnodup hperm'.symm patterns)]

/-! ### A command line as it is written -/

/-- Two entries for a name that the sample file has a fragment for too. -/
def sampleOptions : Options :=
  ⟨[.noAnchor], none, ["year=\\d\x7b3\x7d".toList, "year=\\d\x7b4\x7d".toList]⟩

theorem ascii_year {c : Char} (h : c ∈ "year".toList) :
    c.toNat < 128 ∧ Unicode.asciiLetters.contains c ∧ Unicode.asciiWordChars.contains c := by
  have hyear : ("year".toList.all fun c => decide (c.toNat < 128) &&
      (Unicode.asciiLetters.contains c && Unicode.asciiWordChars.contains c)) = true := by decide
  simpa using List.all_eq_true.1 hyear c h

theorem denotes_sampleOptions : List.Forall₂ Denotes sampleOptions.patterns
    [("year".toList, "\\d\x7b3\x7d".toList), ("year".toList, "\\d\x7b4\x7d".toList)] := by
  have hyear (c : Char) (hc : c ∈ "year".toList) : Unicode.isAlphanumeric c ∨ c = '_' := by
    obtain ⟨hlt, hletter, -⟩ := ascii_year hc
    rw [Unicode.isAlphanumeric_of_lt hlt, hletter]
    simp
  exact .cons ⟨rfl, by decide, hyear⟩ (.cons ⟨rfl, by decide, hyear⟩ .nil)

theorem expand_year (e : Expander) : e.expand "<year>".toList .none =
    e.settings.finish "<year>".toList
      (Placeholder.captureGroup ⟨"year".toList, none⟩
        ((e.table.get? "year".toList).getD e.settings.defaultFragment)) := by
  have hyear : Placeholder.WellFormed ⟨"year".toList, none⟩ := by
    refine ⟨by decide, fun c hc => ?_, by decide, by simp⟩
    obtain ⟨hlt, -, hword⟩ := ascii_year hc
    rw [Unicode.isWord_of_lt hlt]
    exact hword
  have htext := substitute_text e.table e.settings.defaultFragment hyear []
  simp only [substitute_nil, List.append_nil] at htext
  exact congrArg (e.settings.finish "<year>".toList) htext

/-- The last entry is over the fragment of the file; the command line leaves out the anchor, and the
file the slash. -/
theorem run_expand_of_sampleText :
    run false (fun _ => .bytes SettingsFile.sampleText.toUTF8)
        (expandWords SettingsFile.defaultName ["<year>".toList] sampleOptions) =
      ⟨0, "(?P<year>\\d\x7b4\x7d)$\n".toList, none⟩ := by
  have hload : SettingsFile.load SettingsFile.defaultName (.bytes SettingsFile.sampleText.toUTF8) =
      .ok ⟨Settings.standard.merge ⟨none, none, none, some false⟩, SettingsFile.samplePatterns⟩ :=
    SettingsFile.load_of_describes (SettingsFile.textOf?_toUTF8 _) ⟨'[', by decide, by decide⟩
      SettingsFile.parse?_sampleText SettingsFile.describes_sampleDocument
  have hwords : Request.ofWords (expandWords SettingsFile.defaultName ["<year>".toList] sampleOptions) =
      some (.run SettingsFile.defaultName (.expand ["<year>".toList] sampleOptions)) :=
    ofWords_expandWords (by decide) (by decide) (by decide)
  obtain ⟨-, hends⟩ := run_expand false (fun _ => .bytes SettingsFile.sampleText.toUTF8)
    SettingsFile.defaultName ["<year>".toList] sampleOptions
  obtain ⟨-, houtcome⟩ := (hends _ hwords).1.expanded _ _ hload denotes_sampleOptions
  rw [houtcome _ (layered (SettingsFile.nodup_of_load hload)), List.flatMap_singleton, expand_year]
  rfl

end RouteTemplate.CommandLine
