import RouteTemplate.Proofs.Listing
import RouteTemplate.Proofs.Provenance

/-!
Colours change nothing but colours. A colour begins with an escape character, so in a text that has none
nothing is taken for a colour, and painting it adds a colour before it and one after it. All that a
command paints is made of what it is given; if there is no escape in that, then the coloured text without
its colours is the text that is written without colours.
-/

namespace RouteTemplate.CommandLine

/-! ### Taking colours out -/

/-- What a colour begins with. -/
def escape : Char := '\x1b'

/-- What follows a colour that a text begins with. A colour consists of an escape, a bracket, digits and
semicolons, and a letter. -/
def afterColour? : List Char → Option (List Char)
  | '\x1b' :: '[' :: r =>
    match r.dropWhile fun c => c.isDigit || c = ';' with
    | 'm' :: rest => some rest
    | _ => none
  | _ => none

theorem length_lt_of_afterColour? {s rest : List Char} (h : afterColour? s = some rest) :
    rest.length < s.length := by
  unfold afterColour? at h
  split at h
  next r =>
    split at h
    next rest' heq =>
      cases h
      have hle := (List.dropWhile_sublist (fun c => c.isDigit || c = ';') (l := r)).length_le
      rw [heq] at hle
      simp only [List.length_cons] at hle ⊢
      omega
    next => cases h
  next => cases h

/-- A text without its colours. -/
def uncolour (s : List Char) : List Char :=
  match _h : afterColour? s with
  | some rest => uncolour rest
  | none =>
    match s with
    | [] => []
    | c :: r => c :: uncolour r
  termination_by s.length
  decreasing_by
    · exact length_lt_of_afterColour? _h
    · exact Nat.lt_succ_self _

theorem uncolour_nil : uncolour [] = [] := by
  rw [uncolour]
  rfl

theorem uncolour_of_afterColour? {s rest : List Char} (h : afterColour? s = some rest) :
    uncolour s = uncolour rest := by
  rw [uncolour]
  split <;> simp_all

theorem uncolour_cons {c : Char} (hc : c ≠ escape) (r : List Char) :
    uncolour (c :: r) = c :: uncolour r := by
  have hnone : afterColour? (c :: r) = none := by
    unfold afterColour?
    split
    next heq => exact absurd (List.cons.inj heq).1 hc
    next => rfl
  rw [uncolour]
  split <;> simp_all

theorem afterColour?_code (style : Style) (r : List Char) :
    afterColour? (style.code ++ r) = some r := by
  cases style <;> rfl

theorem afterColour?_reset (r : List Char) : afterColour? (reset ++ r) = some r :=
  rfl

/-- What has no escape needs no style to be turned on again. -/
theorem restyle_of_notMem (style : Style) {s : List Char} (h : escape ∉ s) : restyle style s = s := by
  induction s with
  | nil => rfl
  | cons c r ih =>
    rw [List.mem_cons, not_or] at h
    rw [restyle, ih h.2]
    rintro _ rfl
    exact absurd rfl h.1

/-! ### Coloured texts -/

/-- A coloured text is, without its colours, a plain one, whatever is written after it. -/
def Shows (coloured plain : List Char) : Prop :=
  ∀ r, uncolour (coloured ++ r) = plain ++ uncolour r

namespace Shows

variable {s s' t t' : List Char}

theorem uncolour_eq (h : Shows s t) : uncolour s = t := by
  simpa [uncolour_nil] using h []

theorem of_notMem (h : escape ∉ s) : Shows s s := by
  intro r
  induction s with
  | nil => rfl
  | cons c s ih =>
    rw [List.mem_cons, not_or] at h
    rw [List.cons_append, uncolour_cons (Ne.symm h.1), ih h.2, List.cons_append]

theorem append (h : Shows s t) (h' : Shows s' t') : Shows (s ++ s') (t ++ t') := by
  intro r
  rw [List.append_assoc, h, h', List.append_assoc]

theorem line (h : Shows s t) : Shows (line s) (line t) :=
  h.append (of_notMem (by decide))

theorem flatMap {α : Type} {xs : List α} {f g : α → List Char} (h : ∀ x ∈ xs, Shows (f x) (g x)) :
    Shows (xs.flatMap f) (xs.flatMap g) := by
  induction xs with
  | nil => exact of_notMem List.not_mem_nil
  | cons x xs ih =>
    rw [List.forall_mem_cons] at h
    rw [List.flatMap_cons, List.flatMap_cons]
    exact h.1.append (ih h.2)

/-- Painting a text that has no escape adds colours only. -/
theorem paint (style : Style) (h : escape ∉ s) : Shows (paint true style s) (paint false style s) := by
  intro r
  have hpainted : CommandLine.paint true style s ++ r = style.code ++ (s ++ (reset ++ r)) := by
    rw [CommandLine.paint, if_pos rfl, restyle_of_notMem style h, List.append_assoc,
      List.append_assoc]
  rw [hpainted, uncolour_of_afterColour? (afterColour?_code style _), of_notMem h,
    uncolour_of_afterColour? (afterColour?_reset r)]
  rfl

end Shows

/-! ### Coloured reports -/

/-- A coloured report has the text of a plain one and fails as it does. -/
structure Report.Shows (coloured plain : Report) : Prop where
  written : CommandLine.Shows coloured.written plain.written
  failure : coloured.failure = plain.failure

namespace Report.Shows

theorem refl {r : Report} (h : escape ∉ r.written) : r.Shows r :=
  ⟨.of_notMem h, rfl⟩

/-- Commands that fail alike report alike if they do so with what they have when they go on. -/
theorem bind {α : Type} {x : Except Failure α} {f g : α → Except Failure Report}
    (h : ∀ a, x = .ok a → (ofExcept (f a)).Shows (ofExcept (g a))) :
    (ofExcept (x >>= f)).Shows (ofExcept (x >>= g)) := by
  cases x with
  | error failure => exact refl List.not_mem_nil
  | ok a => exact h a rfl

end Report.Shows

/-- Names are aligned before they are painted. -/
theorem shows_listTable {t : FragmentTable} (h : t.Lacks escape) :
    Shows (listTable true t) (listTable false t) := by
  refine .flatMap fun (name, fragment) he => ?_
  obtain ⟨hname, hfragment⟩ := h _ (t.sorted_perm.mem_iff.1 he)
  have haligned : escape ∉ alignRight name := by
    rw [alignRight, List.mem_append, not_or]
    exact ⟨fun hmem => absurd (List.eq_of_mem_replicate hmem) (by decide), hname⟩
  have hcolon : Shows ": ".toList ": ".toList := .of_notMem (by decide)
  exact (((Shows.paint .cyan haligned).append hcolon).append (.of_notMem hfragment)).line

theorem shows_captureLine {captures : List (List Char × List Char)} {name : List Char}
    (hname : escape ∉ name) (hcaptures : ∀ e ∈ captures, escape ∉ e.2) :
    Shows (captureLine true captures name) (captureLine false captures name) := by
  have hbefore : Shows ("  ".toList ++ name ++ " = ".toList) ("  ".toList ++ name ++ " = ".toList) :=
    ((Shows.of_notMem (by decide)).append (.of_notMem hname)).append (.of_notMem (by decide))
  unfold captureLine
  refine (hbefore.append ?_).line
  cases hvalue : captures.lookup name with
  | none => exact .paint .dimmed (by decide)
  | some value => exact .paint .yellow (hcaptures _ (mem_of_lookup hvalue))

theorem isNameChar_escape : Regex.isNameChar false escape = false := by
  have hletter : Unicode.isAlphanumeric escape = false := by
    rw [Unicode.isAlphanumeric_of_lt (by decide)]
    decide
  rw [Regex.isNameChar, if_neg Bool.false_ne_true, hletter]
  decide

theorem shows_matchPath [Regex.SizeLimit] {e : Expander} {t path : List Char} {o : Overrides}
    {r : Route} (hr : e.route t o = .ok r) (hpattern : escape ∉ r.pattern) (hpath : escape ∉ path) :
    (matchPath true r path).Shows (matchPath false r path) := by
  have hhead : Shows (line ("Pattern: ".toList ++ paint true .cyan r.pattern))
      (line ("Pattern: ".toList ++ paint false .cyan r.pattern)) :=
    ((Shows.of_notMem (by decide)).append (.paint .cyan hpattern)).line
  unfold matchPath
  cases hcaptures : r.captures path with
  | none => exact ⟨hhead, rfl⟩
  | some captures =>
    have hmatched : Shows (line (paint true .boldGreen "✓ Matched".toList))
        (line (paint false .boldGreen "✓ Matched".toList)) := (Shows.paint .boldGreen (by decide)).line
    refine ⟨(hhead.append hmatched).append (.flatMap fun name hname => ?_), rfl⟩
    refine shows_captureLine (fun hmem => ?_) fun d hd hmem => ?_
    · have hchar := Route.isNameChar_of_mem_names hr hname hmem
      rw [isNameChar_escape] at hchar
      cases hchar
    · exact hpath (Route.mem_of_mem_captures hcaptures hd hmem)

theorem lacks_standard : FragmentTable.standard.Lacks escape := by
  unfold FragmentTable.Lacks
  decide

theorem notMem_expandAll {e : Expander} {templates : List (List Char)} {o : Overrides}
    (he : e.Lacks escape) (ho : ∀ fragment ∈ o.defaultFragment, escape ∉ fragment)
    (htemplates : ∀ t ∈ templates, escape ∉ t) : escape ∉ expandAll e templates o := by
  intro hmem
  obtain ⟨t, ht, hmem⟩ := List.mem_flatMap.1 hmem
  rcases List.mem_append.1 hmem with hmem | hmem
  · exact he.expand (by decide) (by decide) ho (htemplates t ht) hmem
  · exact absurd hmem (by decide)

/-- A command that is given no escape reports with colours what it reports without. -/
theorem Command.shows_run [Regex.SizeLimit] {command : Command} {file : List Char}
    {content : FileContent} (hcommand : command.Lacks escape)
    (hfile : ∀ loaded, SettingsFile.load file content = .ok loaded → loaded.Lacks escape) :
    (command.run true file content).Shows (command.run false file content) := by
  have hloaded {o : Options} (ho : o.Lacks escape) {e : Expander}
      (h : loadExpander file content o = .ok e) : e.Lacks escape :=
    lacks_of_loadExpander lacks_standard hfile ho h
  cases command with
  | expand templates o =>
    obtain ⟨htemplates, ho⟩ := hcommand
    exact .bind fun e he => .refl (notMem_expandAll (hloaded ho he) ho.default htemplates)
  | patterns =>
    refine .bind fun e he => ⟨shows_listTable (hloaded ⟨?_, ?_⟩ he).table, rfl⟩
    · simp [Options.standard]
    · simp [Options.standard]
  | tryMatch template path o =>
    obtain ⟨htemplate, hpath, ho⟩ := hcommand
    refine .bind fun e he => .bind fun r hr => ?_
    cases hroute : e.route template o.overrides with
    | error err =>
      rw [hroute] at hr
      cases hr
    | ok r' =>
      rw [hroute] at hr
      cases hr
      obtain ⟨n, -, -, rfl⟩ := Expander.route_eq_ok_iff.1 hroute
      exact shows_matchPath hroute
        ((hloaded ho he).expand (by decide) (by decide) ho.default htemplate) hpath

/-! ### The program -/

/-- Nothing that the program is given has an escape: no word, and no name and no fragment that is read
from the settings file that is asked for. -/
structure EscapeFree (contentOf : List Char → FileContent) (words : List (List Char)) : Prop where
  notMem : ∀ w ∈ words, escape ∉ w
  lacks : ∀ file command loaded, Request.ofWords words = some (.run file command) →
    SettingsFile.load file (contentOf file) = .ok loaded → loaded.Lacks escape

/-- The outcome with colours is the outcome without them, but for the colours in what is written. -/
structure Outcome.Shows (coloured plain : Outcome) : Prop where
  code : coloured.code = plain.code
  error : coloured.error = plain.error
  written : uncolour coloured.written = plain.written

theorem Report.Shows.outcome {coloured plain : Report} (h : coloured.Shows plain) :
    coloured.outcome.Shows plain.outcome := by
  unfold Report.outcome
  rw [h.failure]
  cases plain.failure <;> exact ⟨rfl, rfl, h.written.uncolour_eq⟩

/-- Colours change nothing but colours: with them the program ends with the same code and the same error,
and what it writes is, without its colours, what it writes without them. In a listing of fragments, too,
each name has the blanks before it that it has without a colour. -/
theorem run_uncoloured [Regex.SizeLimit] (contentOf : List Char → FileContent)
    (words : List (List Char)) (h : EscapeFree contentOf words) :
    (run true contentOf words).Shows (run false contentOf words) ∧
    ∀ file e, Request.ofWords words = some (.run file .patterns) →
      loadExpander file (contentOf file) .standard = .ok e →
      uncolour (run true contentOf words).written = e.table.sorted.flatMap fun (name, fragment) =>
        List.replicate (5 - name.length) ' ' ++ name ++ ": ".toList ++ fragment ++ ['\n'] := by
  have hshows : (run true contentOf words).Shows (run false contentOf words) := by
    unfold run
    cases hwords : Request.ofWords words with
    | none => exact ⟨rfl, rfl, uncolour_nil⟩
    | some request =>
      cases request with
      | version =>
        have hversion : escape ∉ line versionText := by decide
        exact ⟨rfl, rfl, (Shows.of_notMem hversion).uncolour_eq⟩
      | run file command =>
        exact (Command.shows_run (Request.lacks_of_read h.notMem hwords)
          fun loaded => h.lacks file command loaded hwords).outcome
  refine ⟨hshows, fun file e hwords he => ?_⟩
  rw [hshows.written, run, hwords]
  simp only [Command.run, he]
  rfl

/-- Names of fewer than five characters are aligned, in the sample file and in colours too. -/
theorem run_patterns_of_sampleText :
    EscapeFree (fun _ => .bytes SettingsFile.sampleText.toUTF8) ["patterns".toList] ∧
    uncolour (run true (fun _ => .bytes SettingsFile.sampleText.toUTF8) ["patterns".toList]).written =
      ("  day: \\d\x7b1,2\x7d\n   id: \\d+\n  mon: [a-z]\x7b3\x7d\n".toList ++
        "month: \\d\x7b1,2\x7d\n    n: \\d+\n slug: [\\w-]+\n".toList ++
        "  tag: \\w+\n year: \\d\x7b2\x7d\n   yy: \\d\x7b2\x7d\n".toList) := by
  have hload (file : List Char) :
      SettingsFile.load file (.bytes SettingsFile.sampleText.toUTF8) =
        .ok ⟨Settings.standard.merge ⟨none, none, none, some false⟩, SettingsFile.samplePatterns⟩ :=
    SettingsFile.load_of_describes (SettingsFile.textOf?_toUTF8 _) ⟨'[', by decide, by decide⟩
      SettingsFile.parse?_sampleText SettingsFile.describes_sampleDocument
  have hwords : Request.ofWords ["patterns".toList] = some (.run SettingsFile.defaultName .patterns) :=
    rfl
  have hfree : EscapeFree (fun _ => .bytes SettingsFile.sampleText.toUTF8) ["patterns".toList] := by
    refine ⟨by decide, fun file command loaded _ h => ?_⟩
    cases (hload file).symm.trans h
    exact ⟨by decide, by decide⟩
  refine ⟨hfree, ?_⟩
  rw [(run_uncoloured _ _ hfree).2 _ _ hwords (loadExpander_of_ok (hload _))]
  decide

end RouteTemplate.CommandLine
