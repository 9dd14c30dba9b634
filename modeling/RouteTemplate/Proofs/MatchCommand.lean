import RouteTemplate.Proofs.Agreement
import RouteTemplate.Proofs.Words

/-!
The command that tries a template on a path. The settings file, the entries, the template and the path
are looked at one after the other, and the first that is not as it should be settles how the command ends.
Once the template compiles its pattern is written, as the command that expands templates writes it. Where
the path matches it, the named groups follow with what they captured.
-/

namespace RouteTemplate

theorem Expander.route_congr [Regex.SizeLimit] {e f : Expander} {t : List Char} {o o' : Overrides}
    (h : e.expand t o = f.expand t o') : e.route t o = f.route t o' := by
  simp only [route, compile, h]

namespace Regex.Node

/-- The named groups of a node, each once, in the order in which they are numbered. -/
structure Lists (n : Node) (groups : List (Nat × List Char)) : Prop where
  ascending : groups.Pairwise fun x y => x.1 < y.1
  mem_iff : ∀ g name, (g, name) ∈ groups ↔ (g, some name) ∈ n.groups
  nodup : (groups.map (·.2)).Nodup

/-- The values that a match in a path gives to names: what lies where a group does, and nothing if the
match does not go through the group. -/
def Gives (n : Node) (path : List Char) (made : Marks) (groups : List (Nat × List Char))
    (value : List Char → Option (List Char)) : Prop :=
  ∀ g name, (g, name) ∈ groups → ∀ v, value name = some v ↔
    ∃ start stop, Spans n.insides path.toArray made g start stop ∧ v = (path.take stop).drop start

theorem lists_named {n : Node} (hn : Distinct n.groups) : n.Lists n.named where
  ascending := n.named_ascending
  mem_iff _ _ := mem_named hn
  nodup := nodup_named hn

theorem Captures.gives {n : Node} {path : List Char} {first last : Nat} {made : Marks}
    {captured : List (List Char × List Char)} (h : n.Captures path first last made captured) :
    n.Gives path made n.named (captured.lookup ·) := by
  intro g name hg v
  constructor
  · intro hv
    have hkey : name ∈ captured.map (·.1) := List.mem_map.2 ⟨(name, v), mem_of_lookup hv, rfl⟩
    obtain ⟨start, stop, hspans⟩ := (h.mem_keys g name hg).1 hkey
    have hlookup := (h.value g name start stop hg hspans).1
    exact ⟨start, stop, hspans, Option.some.inj (hv.symm.trans hlookup)⟩
  · rintro ⟨start, stop, hspans, rfl⟩
    exact (h.value g name start stop hg hspans).1

end Regex.Node

namespace CommandLine

/-! ### Words -/

/-- A command line that asks for a template to be tried on a path. -/
def matchWords (file template path : List Char) (o : Options) : List (List Char) :=
  ("--config=".toList ++ file) :: "match".toList :: o.switches.map Switch.word ++
    o.default.toList.map ("--default=".toList ++ ·) ++ o.patterns.map ("--pattern=".toList ++ ·) ++
    "--".toList :: [template, path]

/-- Nothing but entries is given twice, and a file that is given has a name. -/
structure Given.Sound (g : Given) : Prop where
  switches : g.switches.Nodup
  config : g.config ≠ some []

namespace Given

variable {g g' : Given}

theorem sound_nothing : nothing.Sound := ⟨List.nodup_nil, by simp [nothing]⟩

theorem sound_of_turn {s : Switch} (h : g.turn s = some g') (hg : g.Sound) : g'.Sound := by
  unfold Given.turn at h
  split at h
  · cases h
  next hs =>
    cases h
    refine ⟨List.nodup_append_comm.1 (List.nodup_cons.2 ⟨?_, hg.switches⟩), hg.config⟩
    simpa using hs

theorem sound_of_set {value : List Char} {s : Setting} (h : g.set value s = some g') (hg : g.Sound) :
    g'.Sound := by
  cases s with
  | config =>
    simp only [Given.set, Option.ite_none_left_eq_some] at h
    obtain ⟨hvalue, h⟩ := h
    cases h
    refine ⟨hg.switches, fun hempty => hvalue ?_⟩
    simp [Option.some.inj hempty]
  | default =>
    simp only [Given.set, Option.ite_none_left_eq_some] at h
    obtain ⟨-, h⟩ := h
    cases h
    exact ⟨hg.switches, hg.config⟩
  | pattern =>
    cases h
    exact ⟨hg.switches, hg.config⟩

theorem keeps_sound (words : List (List Char)) : Keeps Sound words where
  operands _ _ _ hg := ⟨hg.switches, hg.config⟩
  turn _ _ _ := sound_of_turn
  set _ _ _ _ _ _ _ := sound_of_set

end Given

/-- A command that is to be run has the options that are read for it, and a file with a name. -/
theorem Request.sound_of_read {words : List (List Char)} {file : List Char} {command : Command}
    (h : Request.read none words = some (.run file command)) :
    file ≠ [] ∧ ∃ name g, Given.Sound g ∧ Command.ofGiven name g = some command := by
  obtain ⟨first, given, name, g, -, hg, hcommand, rfl, hfirst⟩ := Request.exists_given_of_read h
  have hsound := (Given.keeps_sound given).read Given.sound_nothing hg
  refine ⟨?_, name, g, hsound, hcommand⟩
  cases hfile : g.config with
  | some file => exact fun hempty => hsound.config (hfile.trans (congrArg some hempty))
  | none =>
    rcases hfirst with rfl | ⟨value, hvalue, rfl⟩
    · exact List.cons_ne_nil _ _
    · exact hvalue

theorem switches_of_ofGiven {name template path : List Char} {g : Given} {o : Options}
    (h : Command.ofGiven name g = some (.tryMatch template path o)) : o.switches = g.switches := by
  unfold Command.ofGiven at h
  split at h
  · cases h
  · dsimp only at h
    split at h <;> cases h
  · cases h
    rfl
  · cases h

/-- A template can be tried on a path with every file that has a name and all switches that are not
given twice. -/
theorem exists_words_iff {file template path : List Char} {o : Options} :
    (∃ words, Request.ofWords words = some (.run file (.tryMatch template path o))) ↔
      file ≠ [] ∧ o.switches.Nodup := by
  constructor
  · rintro ⟨words, h⟩
    obtain ⟨hfile, name, g, hg, hcommand⟩ := Request.sound_of_read h
    rw [switches_of_ofGiven hcommand]
    exact ⟨hfile, hg.switches⟩
  · rintro ⟨hfile, hswitches⟩
    exact ⟨matchWords file template path o, ofWords_command hfile hswitches rfl rfl⟩

/-! ### The outcome -/

/-- A settings file can be loaded and entries are all valid, and an expander is layered of them. -/
def Configured (file : List Char) (content : FileContent) (o : Options) (e : Expander) : Prop :=
  ∃ loaded entries, SettingsFile.load file content = .ok loaded ∧
    List.Forall₂ Denotes o.patterns entries ∧ Layered e loaded entries o

/-- How trying a template on a path ends, with a settings file of some content. -/
structure Tries [Regex.SizeLimit] (file : List Char) (content : FileContent)
    (template path : List Char) (o : Options) (outcome : Outcome) : Prop where
  notLoaded : ∀ err, SettingsFile.load file content = .error err →
    outcome = ⟨1, [], some ("Error: ".toList ++ (Failure.config file).message)⟩
  invalid : ∀ loaded, SettingsFile.load file content = .ok loaded →
    (¬ ∃ entries, List.Forall₂ Denotes o.patterns entries) →
    ∃ valid entry rest entries, o.patterns = valid ++ entry :: rest ∧
      List.Forall₂ Denotes valid entries ∧ (∀ d, ¬ Denotes entry d) ∧
      outcome = ⟨1, [], some ("Error: ".toList ++ (Failure.entry entry).message)⟩
  configured : ∀ loaded entries, SettingsFile.load file content = .ok loaded →
    List.Forall₂ Denotes o.patterns entries → ∃ e, Layered e loaded entries o
  refused : ∀ e, Configured file content o e → ∀ err, e.route template .none = .error err →
    outcome = ⟨1, [], some ("Error: ".toList ++ (Failure.template template).message)⟩
  unmatched : ∀ e, Configured file content o e → ∀ r, e.route template .none = .ok r →
    ¬ r.isMatch path → outcome = ⟨1, line ("Pattern: ".toList ++ e.expand template .none),
      some ("Error: ".toList ++ (Failure.noMatch path (e.expand template .none)).message)⟩
  matched : ∀ e, Configured file content o e → ∀ r, e.route template .none = .ok r →
    r.isMatch path → ∃ n groups first last made value,
      Regex.Node.parse (e.expand template .none) = .ok n ∧ n.Lists groups ∧
      n.LeftmostFirst path.toArray first last made ∧ n.Gives path made groups value ∧
      outcome = ⟨0, line ("Pattern: ".toList ++ e.expand template .none) ++
        line "✓ Matched".toList ++ groups.flatMap fun g =>
          line ("  ".toList ++ g.2 ++ " = ".toList ++ (value g.2).getD "(unset)".toList), none⟩

section

variable {r : Route} {path : List Char}

theorem exists_find?_of_isMatch (h : r.isMatch path) : ∃ m, r.regex.find? path = some m := by
  rw [← Option.isSome_iff_exists, Regex.find?, Option.isSome_map]
  exact h

theorem matchPath_of_not_isMatch (h : ¬ r.isMatch path) : matchPath false r path =
    ⟨line ("Pattern: ".toList ++ r.pattern), some (.noMatch path r.pattern)⟩ := by
  have hnone : r.regex.program.search path.toArray = none := Option.not_isSome_iff_eq_none.1 h
  simp only [matchPath, Route.captures, Regex.find?, hnone]
  rfl

theorem captureLine_eq (captured : List (List Char × List Char)) (name : List Char) :
    captureLine false captured name = line ("  ".toList ++ name ++ " = ".toList ++
      (captured.lookup name).getD "(unset)".toList) := by
  unfold captureLine
  cases captured.lookup name <;> rfl

theorem matchPath_of_find? {m : Regex.Match} (h : r.regex.find? path = some m) :
    matchPath false r path = .success (line ("Pattern: ".toList ++ r.pattern) ++
      line "✓ Matched".toList ++ r.names.flatMap fun name => line ("  ".toList ++ name ++
        " = ".toList ++ ((r.regex.captures m).lookup name).getD "(unset)".toList)) := by
  simp only [matchPath, Route.captures, h, Option.map_some, ← captureLine_eq]
  rfl

end

theorem Configured.run_eq [Regex.SizeLimit] {file : List Char} {content : FileContent} {o : Options}
    {e : Expander} (he : Configured file content o e) (coloured : Bool) (template path : List Char) :
    (Command.tryMatch template path o).run coloured file content =
      .ofExcept (((e.route template .none).mapError fun _ => .template template).map
        (matchPath coloured · path)) := by
  obtain ⟨loaded, entries, hload, hentries, he⟩ := he
  obtain ⟨e', hloaded, hexpand⟩ := he.exists_loadExpander hload hentries
  rw [Command.run, hloaded, ← Expander.route_congr (hexpand template)]
  rfl

theorem tries_tryMatch [Regex.SizeLimit] (file : List Char) (content : FileContent)
    (template path : List Char) (o : Options) : Tries file content template path o
      ((Command.tryMatch template path o).run false file content).outcome where
  notLoaded err hload := by
    rw [Command.run, loadExpander_of_error hload]
    rfl
  invalid loaded hload hinvalid := by
    obtain ⟨valid, entry, rest, entries, hpatterns, hvalid, hentry, hfailed⟩ :=
      exists_loadExpander_error hload hinvalid
    refine ⟨valid, entry, rest, entries, hpatterns, hvalid, hentry, ?_⟩
    rw [Command.run, hfailed]
    rfl
  configured loaded entries hload _ := ⟨_, layered (SettingsFile.nodup_of_load hload)⟩
  refused e he err herr := by
    rw [he.run_eq, herr]
    rfl
  unmatched e he r hr hpath := by
    rw [he.run_eq, hr]
    obtain ⟨n, -, -, rfl⟩ := Expander.route_eq_ok_iff.1 hr
    exact congrArg Report.outcome (matchPath_of_not_isMatch hpath)
  matched e he r hr hpath := by
    rw [he.run_eq, hr]
    obtain ⟨n, hn, -, rfl⟩ := Expander.route_eq_ok_iff.1 hr
    have hdistinct := Regex.distinct_of_parse hn
    obtain ⟨m, hm⟩ := exists_find?_of_isMatch hpath
    obtain ⟨first, last, made, hfirst, hcaptures⟩ := Regex.exists_captures_of_find? hdistinct hm
    refine ⟨n, n.named, first, last, made, _, hn, Regex.Node.lists_named hdistinct, hfirst,
      hcaptures.gives, ?_⟩
    have hnames : Route.names ⟨template, e.expand template .none, Regex.ofNode n⟩ =
        n.named.map (·.2) := Regex.names_ofNode n
    have hreport := matchPath_of_find? hm
    rw [hnames, List.flatMap_map] at hreport
    exact congrArg Report.outcome hreport

/-- Trying a template on a path is successful exactly if all four stages are. -/
theorem Tries.code_eq_zero_iff [Regex.SizeLimit] {file : List Char} {content : FileContent}
    {template path : List Char} {o : Options} {outcome : Outcome} (h : Tries file content template path o outcome) :
    outcome.code = 0 ↔ ∃ loaded entries e r, SettingsFile.load file content = .ok loaded ∧
      List.Forall₂ Denotes o.patterns entries ∧ Layered e loaded entries o ∧
      e.route template .none = .ok r ∧ r.isMatch path := by
  constructor
  · intro hcode
    -- Stage by stage: one that is not passed leaves a code other than 0.
    cases hload : SettingsFile.load file content with
    | error err =>
      rw [h.notLoaded err hload] at hcode
      cases hcode
    | ok loaded =>
      by_cases hvalid : ∃ entries, List.Forall₂ Denotes o.patterns entries
      · obtain ⟨entries, hentries⟩ := hvalid
        obtain ⟨e, he⟩ := h.configured loaded entries hload hentries
        have hconfigured : Configured file content o e := ⟨loaded, entries, hload, hentries, he⟩
        cases hr : e.route template .none with
        | error err =>
          rw [h.refused e hconfigured err hr] at hcode
          cases hcode
        | ok r =>
          by_cases hpath : r.isMatch path
          · exact ⟨loaded, entries, e, r, rfl, hentries, he, hr, hpath⟩
          · rw [h.unmatched e hconfigured r hr hpath] at hcode
            cases hcode
      · obtain ⟨valid, entry, rest, entries, -, -, -, houtcome⟩ := h.invalid loaded hload hvalid
        rw [houtcome] at hcode
        cases hcode
  · rintro ⟨loaded, entries, e, r, hload, hentries, he, hr, hpath⟩
    obtain ⟨n, groups, first, last, made, value, -, -, -, -, houtcome⟩ :=
      h.matched e ⟨loaded, entries, hload, hentries, he⟩ r hr hpath
    rw [houtcome]

/-- What the program does when a template is to be tried on a path: every file, switches, entries,
template and path can be asked for, the command ends as it should, with 0 exactly if all of its stages are
passed, and the pattern that it writes is the one that the command for expanding writes. -/
theorem run_tryMatch [Regex.SizeLimit] (contentOf : List Char → FileContent)
    (file template path : List Char) (o : Options) :
    ((∃ words, Request.ofWords words = some (.run file (.tryMatch template path o))) ↔
      file ≠ [] ∧ o.switches.Nodup) ∧
    ∀ words, Request.ofWords words = some (.run file (.tryMatch template path o)) →
      Tries file (contentOf file) template path o (run false contentOf words) ∧
      ((run false contentOf words).code = 0 ↔ ∃ loaded entries e r,
        SettingsFile.load file (contentOf file) = .ok loaded ∧
        List.Forall₂ Denotes o.patterns entries ∧ Layered e loaded entries o ∧
        e.route template .none = .ok r ∧ r.isMatch path) ∧
      (∃ words', Request.ofWords words' = some (.run file (.expand [template] o))) ∧
      ∀ words', Request.ofWords words' = some (.run file (.expand [template] o)) →
        ∀ e, Configured file (contentOf file) o e →
          run false contentOf words' = ⟨0, line (e.expand template .none), none⟩ := by
  refine ⟨exists_words_iff, fun words hwords => ?_⟩
  have htries : Tries file (contentOf file) template path o (run false contentOf words) := by
    rw [run, hwords]
    exact tries_tryMatch file (contentOf file) template path o
  obtain ⟨hfile, hswitches⟩ := exists_words_iff.1 ⟨words, hwords⟩
  refine ⟨htries, htries.code_eq_zero_iff,
    ⟨_, ofWords_expandWords hfile (List.cons_ne_nil template []) hswitches⟩,
    fun words' hwords' e hconfigured => ?_⟩
  obtain ⟨loaded, entries, hload, hentries, he⟩ := hconfigured
  have hends := ends_expand false file (contentOf file) [template] o
  rw [run, hwords']
  refine ((hends.expanded loaded entries hload hentries).2 e he).trans ?_
  rw [List.flatMap_singleton]
  rfl

/-! ### A group that is passed over -/

/-- The options with which a pattern is nothing but its body. -/
def bareOptions : Options := ⟨[.noAnchor, .noTerminate, .noSlash], none, []⟩

/-- A group that may be passed over. -/
def optionalGroup : Regex.Node :=
  .repetition ⟨0, some 1, true⟩ (.capture 1 (some ['_']) (.set (.singleton 'x')))

theorem exists_layered_bareOptions : ∃ e, Layered e .standard [] bareOptions ∧
    e.expand "<_:x>?".toList .none = "(?P<_>x)?".toList := by
  have hnodup : (SettingsFile.standard.patterns.map (·.1)).Nodup := List.nodup_nil
  refine ⟨⟨.standard, Settings.standard.merge bareOptions.overrides⟩, layered hnodup, ?_⟩
  have hp : Placeholder.WellFormed ⟨['_'], some ['x']⟩ :=
    Placeholder.wellFormed_of_ascii (by decide)
  have hfind : Placeholder.find? (['?'] ++ []) = none := by
    rw [Placeholder.find?_append_of_notMem (by decide)]
    rfl
  have htext := substitute_text .standard Settings.standard.defaultFragment hp (['?'] ++ [])
  rw [substitute_of_find?_eq_none _ _ hfind] at htext
  refine (congrArg ((Settings.standard.merge bareOptions.overrides).finish "<_:x>?".toList)
    htext).trans ?_
  decide

/-- The group is listed as one that is not set. -/
theorem run_tryMatch_of_unset :
    run false (fun _ => .missing)
        (matchWords SettingsFile.defaultName "<_:x>?".toList ['y'] bareOptions) =
      ⟨0, "Pattern: (?P<_>x)?\n✓ Matched\n  _ = (unset)\n".toList, none⟩ := by
  have hwords : Request.ofWords
      (matchWords SettingsFile.defaultName "<_:x>?".toList ['y'] bareOptions) =
        some (.run SettingsFile.defaultName (.tryMatch "<_:x>?".toList ['y'] bareOptions)) :=
    ofWords_command (by decide) (by decide) rfl rfl
  obtain ⟨-, hends⟩ := run_tryMatch (fun _ => .missing) SettingsFile.defaultName "<_:x>?".toList ['y']
    bareOptions
  obtain ⟨htries, -⟩ := hends _ hwords
  obtain ⟨e, he, hexpand⟩ := exists_layered_bareOptions
  have hn : Regex.Node.parse (e.expand "<_:x>?".toList .none) = .ok optionalGroup := by
    rw [hexpand]
    decide +kernel
  have hpath : (Regex.ofNode optionalGroup).isMatch ['y'] = true := by
    decide +kernel
  obtain ⟨n, groups, first, last, made, value, hn', hgroups, -, hvalue, houtcome⟩ :=
    htries.matched e ⟨.standard, [], rfl, .nil, he⟩ _ (Expander.route_eq_ok hn rfl) hpath
  obtain rfl := Except.ok.inj (hn.symm.trans hn')
  have hlisted : groups = [(1, ['_'])] := by
    refine eq_of_ascending hgroups.ascending (List.pairwise_singleton _ _) ?_
    rintro ⟨g, name⟩
    rw [hgroups.mem_iff]
    simp [optionalGroup, Regex.Node.groups]
  subst hlisted
  have hunset : value ['_'] = none := by
    -- A place of the group would be one of an `x` in the path.
    refine Option.eq_none_iff_forall_ne_some.2 fun v hv => ?_
    obtain ⟨start, stop, ⟨inside, later, inner, earlier, hinside, hmatch, -⟩, -⟩ :=
      (hvalue 1 ['_'] List.mem_cons_self v).1 hv
    obtain rfl : inside = .set (.singleton 'x') := by
      simpa [optionalGroup, Regex.Node.insides] using hinside
    obtain ⟨hx, -⟩ := Regex.Node.matches_singleton.1 hmatch
    have hmem : 'x' ∈ ['y'].toArray := Array.mem_of_getElem? hx
    simp at hmem
  rw [houtcome, hexpand]
  simp only [List.flatMap_singleton, hunset]
  rfl

end CommandLine
end RouteTemplate
