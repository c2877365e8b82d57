import ForbiddenCalls.CommandLine.Run
import ForbiddenCalls.Proofs.DistinctCalls
import ForbiddenCalls.Proofs.Registration
import ForbiddenCalls.Proofs.Soundness

/-!
# The verdict of a check

A check is clean unless it was cut short or found something severe enough.  It decides
this on the report, that is, after the rules were put together and configured, and after
matches were logged once for each key, sorted, and joined by the paths that could not be
read.  Here the verdict is tied to the calls and the rules as they were before all that.

* `Analyzer.Violates`: a call of a unit that a rule from one of the sources forbids, with
  a severity from which on the check fails.
* `Analyzer.Finishes.hasFindingsAt_iff`: the log keeps one finding for each key, and its
  severity is that of every match with the key, so a severe finding is left exactly when
  there was a severe match.
* `CommandLine.Check.runWith_eq_ok_iff`: what a check that comes to a report has gathered
  on the way.
* `CommandLine.isClean_iff_no_violation`: the verdict, for every schedule, and of the
  command.
-/

namespace ForbiddenCalls

open CommandLine

namespace Config

variable {c : Config} {id : String}

/-- The configuration has an entry for an id that switches rules off. -/
def Disables (c : Config) (id : String) : Prop :=
  ∃ entry, c.rules.lookup id = some entry ∧ entry.enabled = some false

theorem disables_iff : c.Disables id ↔ (c.ruleConfig id).enabled = some false := by
  rw [Disables, ruleConfig]
  cases c.rules.lookup id <;> simp

instance (c : Config) (id : String) : Decidable (c.Disables id) := decidable_of_iff _ disables_iff.symm

/-- The severity of a rule: that of its entry in the configuration, else its own. -/
def severityOf (c : Config) (r : Rule) : Severity :=
  match c.rules.lookup r.id.text with
  | some ⟨_, some severity⟩ => severity
  | _ => r.severity

/-- An adjusted rule differs from the rule in its severity only. -/
theorem adjust_eq (c : Config) (r : Rule) : c.adjust r = { r with severity := c.severityOf r } := by
  rw [adjust, ruleSeverity?, ruleConfig, severityOf]
  rcases c.rules.lookup r.id.text with _ | ⟨_, _ | severity⟩ <;> rfl

theorem severity_adjust (c : Config) (r : Rule) : (c.adjust r).severity = c.severityOf r := by
  rw [adjust_eq]

theorem isRuleEnabled_iff : c.isRuleEnabled id = true ↔ ¬ c.Disables id := by
  rw [isRuleEnabled_eq, bne_iff_ne, disables_iff]

end Config

namespace Analyzer

variable {a : Analyzer} {config : Config} {rules : List Rule} {units : List SourceUnit}
  {u : SourceUnit} {c : CallSite} {type : String} {s : Pool}

/-- A call of an analyzed unit that violates one of the rules: the rule is not switched
off, it is about the method and the type that owns it, the call has a receiver if the
rule asks for one, and the severity of the rule is one from which on a check fails. -/
structure Violates (a : Analyzer) (config : Config) (rules : List Rule) (u : SourceUnit)
    (c : CallSite) (r : Rule) (type : String) : Prop where
  found : ∃ d calls, a.Analyzed u d calls ∧ c ∈ calls ∧ d.resolveOwner c = .resolved type
  listed : r ∈ rules
  enabled : ¬ config.Disables r.id.text
  method : c.method ∈ r.methods
  receiver : r.requiresReceiver = true → c.hasReceiver = true
  owner : r.owner.accepts type = true
  severe : config.failOn.getD .error ≤ config.severityOf r

/-- A violation of the rules is a severe call that the configured rules forbid. -/
theorem exists_forbids_iff (hrules : a.registry.activeRules = config.applyOverrides rules) :
    (∃ r, a.Forbids u c r type ∧ config.failThreshold ≤ r.severity) ↔
      ∃ r, a.Violates config rules u c r type := by
  constructor
  · rintro ⟨_, hforbids, hsevere⟩
    have hactive := hforbids.active
    rw [hrules, Config.applyOverrides, List.mem_map] at hactive
    obtain ⟨r, hr, rfl⟩ := hactive
    obtain ⟨hr, henabled⟩ := List.mem_filter.1 hr
    rw [Config.isRuleEnabled_iff] at henabled
    rw [Config.severity_adjust] at hsevere
    rw [config.adjust_eq] at hforbids
    exact ⟨r, hforbids.found, hr, henabled, hforbids.method, hforbids.receiver, hforbids.owner,
      hsevere⟩
  · rintro ⟨r, h⟩
    have henabled : config.isRuleEnabled r.id.text = true := Config.isRuleEnabled_iff.2 h.enabled
    have hactive : config.adjust r ∈ a.registry.activeRules := by
      rw [hrules]
      exact List.mem_map_of_mem (List.mem_filter.2 ⟨h.listed, henabled⟩)
    refine ⟨config.adjust r, ?_, ?_⟩
    · rw [config.adjust_eq] at hactive ⊢
      exact ⟨h.found, hactive, h.method, h.receiver, h.owner⟩
    · rw [Config.severity_adjust]
      exact h.severe

/-! ## Severe findings -/

/-- Reported findings with one key have one severity: the key names an active rule. -/
theorem severity_eq_of_key_eq {ms : List (CallSite × Rule)}
    (h : Interleaving (units.map a.reports) ms) {f g : Finding} (hf : f ∈ findingsOf ms)
    (hg : g ∈ findingsOf ms) (hkey : f.key = g.key) : f.severity = g.severity := by
  obtain ⟨_, -, _, rule, _, hforbids, rfl⟩ := (mem_findingsOf_iff h).1 hf
  obtain ⟨_, -, _, rule', _, hforbids', rfl⟩ := (mem_findingsOf_iff h).1 hg
  have hid : rule.id.text = rule'.id.text := congrArg Finding.Key.ruleId hkey
  rw [eq_of_id_eq hforbids.active hforbids'.active hid]
  rfl

/-- **A severe finding is left exactly when there was a severe match.** -/
theorem Finishes.hasFindingsAt_iff (h : a.Finishes units s) (severity : Severity) :
    s.report.hasFindingsAt severity = true ↔
      ∃ u ∈ s.taken, ∃ c type r, a.Forbids u c r type ∧ severity ≤ r.severity := by
  obtain ⟨ms, hwoven, hreport⟩ := h.exists_interleaving
  rw [hreport, reportOn, Report.hasFindingsAt, List.any_eq_true]
  simp only [Finding.mem_listing, decide_eq_true_eq]
  constructor
  · rintro ⟨f, hf, hsevere⟩
    obtain ⟨u, hu, c, rule, type, hforbids, rfl⟩ :=
      (mem_findingsOf_iff hwoven).1 (Finding.mem_of_mem_firsts hf)
    exact ⟨u, hu, c, type, rule, hforbids, hsevere⟩
  · rintro ⟨u, hu, c, type, rule, hforbids, hsevere⟩
    have hmem := (mem_findingsOf_iff hwoven).2 ⟨u, hu, c, rule, type, hforbids, rfl⟩
    obtain ⟨g, hg, hkey⟩ := Finding.exists_mem_firsts hmem
    refine ⟨g, hg, ?_⟩
    rw [severity_eq_of_key_eq hwoven (Finding.mem_of_mem_firsts hg) hmem hkey]
    exact hsevere

/-- A run that skips no unit takes them all. -/
theorem Finishes.taken_eq_of_skipped (h : a.Finishes units s) (hskipped : s.report.skipped = 0) :
    s.taken = units := by
  obtain ⟨ms, -, hreport⟩ := h.exists_interleaving
  have hnone : units.length - s.taken.length = 0 := by
    rw [hreport] at hskipped
    exact hskipped
  exact h.taken_sublist.eq_of_length_le (Nat.le_of_sub_eq_zero hnone)

/-- **The verdict on a run.** -/
theorem Finishes.isClean_iff (h : a.Finishes units s)
    (hrules : a.registry.activeRules = config.applyOverrides rules) (unreadable : List Failure) :
    Check.isClean config (s.report.recordFailures unreadable) = true ↔
      s.report.skipped = 0 ∧ ¬ ∃ u ∈ units, ∃ c type r, a.Violates config rules u c r type := by
  rw [Check.isClean_iff, Report.skipped_recordFailures, Report.hasFindingsAt_recordFailures]
  refine and_congr_right fun hskipped => ?_
  simp only [h.hasFindingsAt_iff, exists_forbids_iff hrules, h.taken_eq_of_skipped hskipped]

end Analyzer

/-! ## The command -/

namespace CommandLine

namespace Check

variable {fs : FileSystem} {env : List (String × String)} {languages : List Language}
  {settings : Settings} {config : Config} {own builtIn more : List Rule} {a : Analyzer}
  {found : Discovered} {cancelled : Bool} {interrupt : Interrupt} {checked : Checked}

/-- What a check has gathered when it starts to analyze: the configuration and the rules
beside it, the built-in rules, those of the file that is asked for, the analyzer that is
built from all of them, and the sources. -/
structure Gathered (fs : FileSystem) (env : List (String × String)) (languages : List Language)
    (settings : Settings) (config : Config) (own builtIn more : List Rule) (a : Analyzer)
    (found : Discovered) : Prop where
  loaded : load fs (Config.locate? fs env (Config.projectDir fs settings.paths) settings.config) =
    .ok (config, own)
  builtIn_eq : builtInRules (ruleSetId settings config) = .ok builtIn
  more_eq : fileRules fs settings.rulesFile = .ok more
  built : Analyzer.build .empty (assemble config builtIn own more) [Language.adapter languages]
    config.analyzer.maxFileBytes = .ok a
  discovered : discover fs a.extensions settings config
    (pathsOf settings (Config.projectDir fs settings.paths) config) = .ok found

/-- The units of the sources that were found. -/
def unitsOf (fs : FileSystem) (found : Discovered) : List SourceUnit :=
  found.files.map (SourceUnit.ofPath fs)

/-- What a check has found out, given what it has gathered. -/
theorem Gathered.runWith_eq (h : Gathered fs env languages settings config own builtIn more a found)
    (cancelled : Bool) (interrupt : Interrupt) :
    runWith fs env languages settings cancelled interrupt =
      .ok ⟨config, a.registry, (a.analyzeWith (unitsOf fs found) cancelled interrupt).recordFailures
        found.unreadable⟩ := by
  simp only [runWith, h.loaded, h.builtIn_eq, h.more_eq, h.built, h.discovered, Except.mapError,
    bind, Except.bind, pure, Except.pure, unitsOf]

/-- What comes to a result has come to one in its first step. -/
theorem exists_of_bind_eq_ok {ε α β : Type} {x : Except ε α} {f : α → Except ε β} {b : β}
    (h : x >>= f = .ok b) : ∃ a, x = .ok a ∧ f a = .ok b := by
  cases x with
  | error e => exact nomatch h
  | ok a => exact ⟨a, rfl, h⟩

theorem eq_ok_of_mapError_eq_ok {ε ε' α : Type} {x : Except ε α} {f : ε → ε'} {a : α}
    (h : x.mapError f = .ok a) : x = .ok a := by
  cases x with
  | error e => exact nomatch h
  | ok a' => exact congrArg Except.ok (Except.ok.inj h)

/-- A check that comes to a report has got through every step that may fail. -/
theorem exists_gathered
    (h : runWith fs env languages settings cancelled interrupt = .ok checked) :
    ∃ config own builtIn more a found,
      Gathered fs env languages settings config own builtIn more a found := by
  unfold runWith at h
  obtain ⟨⟨config, own⟩, hloaded, h⟩ := exists_of_bind_eq_ok h
  obtain ⟨builtIn, hbuiltIn, h⟩ := exists_of_bind_eq_ok h
  obtain ⟨more, hmore, h⟩ := exists_of_bind_eq_ok h
  obtain ⟨a, hbuilt, h⟩ := exists_of_bind_eq_ok h
  obtain ⟨found, hfound, -⟩ := exists_of_bind_eq_ok h
  exact ⟨config, own, builtIn, more, a, found, hloaded, hbuiltIn, hmore,
    eq_ok_of_mapError_eq_ok hbuilt, hfound⟩

/-- **A check comes to a report exactly when it has gathered all it needs.** -/
theorem runWith_eq_ok_iff :
    runWith fs env languages settings cancelled interrupt = .ok checked ↔
      ∃ config own builtIn more a found,
        Gathered fs env languages settings config own builtIn more a found ∧
        checked = ⟨config, a.registry,
          (a.analyzeWith (unitsOf fs found) cancelled interrupt).recordFailures
            found.unreadable⟩ := by
  constructor
  · intro h
    obtain ⟨config, own, builtIn, more, a, found, hgathered⟩ := exists_gathered h
    rw [hgathered.runWith_eq] at h
    exact ⟨config, own, builtIn, more, a, found, hgathered, (Except.ok.inj h).symm⟩
  · rintro ⟨config, own, builtIn, more, a, found, hgathered, rfl⟩
    exact hgathered.runWith_eq cancelled interrupt

/-- The exit code of the command tells the verdict. -/
theorem exists_run_of_check {i : Invocation} (hcommand : i.command = .check)
    (h : run fs env languages i.settings = .ok checked) :
    ∃ outcome, i.run fs env languages = .ok outcome ∧
      (outcome.code = 0 ↔ isClean checked.config checked.report = true) := by
  simp only [Invocation.run, hcommand, h, bind, Except.bind, pure, Except.pure]
  refine ⟨_, rfl, ?_⟩
  cases isClean checked.config checked.report with
  | false => exact iff_of_false Nat.one_ne_zero Bool.false_ne_true
  | true => exact iff_of_true rfl rfl

end Check

/-! ## The verdict -/

/-- **The verdict of a check is whether there is a violation.**  Let an analyzer be built
from the rules of the built-in set, the configuration and the file that is asked for, as
they are configured.  Whatever the units, the schedule and the time of a cancellation are,
and whatever paths could not be read, the check is clean exactly when no unit was skipped
and no analyzed call violates one of the rules.  The command does come to such a verdict
when it has gathered all it needs, and its exit code is 0 exactly when no call of the
sources violates a rule. -/
theorem isClean_iff_no_violation :
    (∀ {config : Config} {builtIn own more : List Rule} {adapters : List Adapter} {limit : Nat}
        {a : Analyzer},
      Analyzer.build .empty (Check.assemble config builtIn own more) adapters limit = .ok a →
      ∀ {units : List SourceUnit} {s : Pool}, a.Finishes units s → ∀ unreadable : List Failure,
        (Check.isClean config (s.report.recordFailures unreadable) = true ↔
          s.report.skipped = 0 ∧ ¬ ∃ u ∈ units, ∃ c type r,
            a.Violates config (builtIn ++ own ++ more) u c r type)) ∧
    (∀ {fs : FileSystem} {env : List (String × String)} {languages : List Language}
        {settings : Settings} {config : Config} {own builtIn more : List Rule} {a : Analyzer}
        {found : Discovered},
      Check.Gathered fs env languages settings config own builtIn more a found →
        (∀ cancelled interrupt, ∃ checked,
          Check.runWith fs env languages settings cancelled interrupt = .ok checked ∧
          checked.config = config ∧
          (Check.isClean checked.config checked.report = true ↔
            checked.report.skipped = 0 ∧ ¬ ∃ u ∈ Check.unitsOf fs found, ∃ c type r,
              a.Violates config (builtIn ++ own ++ more) u c r type)) ∧
        (∀ i : Invocation, i.command = .check → i.settings = settings →
          ∃ outcome, i.run fs env languages = .ok outcome ∧
            (outcome.code = 0 ↔ ¬ ∃ u ∈ Check.unitsOf fs found, ∃ c type r,
              a.Violates config (builtIn ++ own ++ more) u c r type))) := by
  have hverdict : ∀ {config : Config} {builtIn own more : List Rule} {adapters : List Adapter}
      {limit : Nat} {a : Analyzer},
      Analyzer.build .empty (Check.assemble config builtIn own more) adapters limit = .ok a →
      ∀ {units : List SourceUnit} {s : Pool}, a.Finishes units s → ∀ unreadable : List Failure,
        (Check.isClean config (s.report.recordFailures unreadable) = true ↔
          s.report.skipped = 0 ∧ ¬ ∃ u ∈ units, ∃ c type r,
            a.Violates config (builtIn ++ own ++ more) u c r type) :=
    fun hbuild _ _ hs => hs.isClean_iff (Analyzer.activeRules_of_build hbuild).1
  refine ⟨hverdict, ?_⟩
  intro fs env languages settings config own builtIn more a found h
  refine ⟨fun cancelled interrupt => ?_, fun i hcommand hsettings => ?_⟩
  · obtain ⟨s, hs, hreport⟩ :=
      a.exists_finishes_analyzeWith (Check.unitsOf fs found) cancelled interrupt
    have hiff := hverdict h.built hs found.unreadable
    rw [hreport] at hiff
    exact ⟨_, h.runWith_eq cancelled interrupt, rfl, hiff⟩
  · obtain ⟨s, hs, -, hreport⟩ := a.yields_analyze (Check.unitsOf fs found)
    have hiff := hverdict h.built hs found.unreadable
    rw [hreport, a.skipped_analyze, eq_self_iff_true, true_and] at hiff
    subst hsettings
    obtain ⟨outcome, houtcome, hcode⟩ :=
      Check.exists_run_of_check hcommand (h.runWith_eq false .never)
    exact ⟨outcome, houtcome, hcode.trans hiff⟩

/-! ## A configured check -/

/-- A configuration that fails from warnings on.  It makes one rule a warning and switches
another one off. -/
def chainConfigText : String :=
  "fail_on = \"warning\"\nrule_set = \"none\"\n" ++
  "[rules.NoB]\nseverity = \"warning\"\n[rules.NoC]\nenabled = false\n"

/-- What the text says. -/
def chainConfig : Config where
  ruleSet := some "none"
  failOn := some .warning
  rules := [("NoB", { severity := some .warning }), ("NoC", { enabled := some false })]

/-- The two rules. -/
def chainRulesText : String :=
  "[[forbidden-call]]\nid = \"NoB\"\nowner_type = \"a.L\"\nmethods = [\"b\"]\n" ++
  "severity = \"info\"\n" ++
  "[[forbidden-call]]\nid = \"NoC\"\nowner_type = \"a.L\"\nmethods = [\"c\"]\n"

/-- The rule that is a hint by itself. -/
def ruleB : Rule where
  id := ⟨"NoB", by decide, by decide⟩
  title := "NoB"
  description := ""
  severity := .info
  owner := .exact "a.L"
  methods := NameSet.empty.insert "b"
  requiresReceiver := false
  message := ⟨"NoB", [.text "NoB"]⟩

/-- The rule that is switched off. -/
def ruleC : Rule where
  id := ⟨"NoC", by decide, by decide⟩
  title := "NoC"
  description := ""
  severity := .error
  owner := .exact "a.L"
  methods := NameSet.empty.insert "c"
  requiresReceiver := false
  message := ⟨"NoC", [.text "NoC"]⟩

theorem parse_chainTexts : Config.parse? chainConfigText = some chainConfig ∧
    loadRules chainConfigText = .ok [] ∧ loadRules chainRulesText = .ok [ruleB, ruleC] := by
  refine ⟨?_, ?_, ?_⟩ <;> decide +kernel

/-- A working directory with one source, the configuration and the rules. -/
def chainTree : FileSystem where
  root := .dir [("A.java", .file ChainExample.text.toUTF8),
    ("callgate.toml", .file chainConfigText.toUTF8), ("rules.toml", .file chainRulesText.toUTF8)]

/-- The settings to check the source. -/
def chainSettings : Settings where
  paths := [⟨"A.java"⟩]
  config := some ⟨"callgate.toml"⟩
  rulesFile := some ⟨"rules.toml"⟩

/-- The analyzer of the rule that is left. -/
def chainAnalyzer : Analyzer :=
  ⟨(Registry.empty.registerAll [ruleB.withSeverity .warning]).1,
    [Language.adapter ChainExample.languages], 4 * 1024 * 1024⟩

theorem readText_chainTree {name text : String}
    (h : (name, text) ∈ [("A.java", ChainExample.text), ("callgate.toml", chainConfigText),
      ("rules.toml", chainRulesText)]) :
    chainTree.isFile ⟨name⟩ = true ∧ chainTree.readBytes ⟨name⟩ = .ok text.toUTF8 ∧
      chainTree.readText ⟨name⟩ = .ok text := by
  have hlocate : chainTree.locate ⟨name⟩ = .ok ([name], .file text.toUTF8) := by
    simp only [List.mem_cons, Prod.mk.injEq, List.not_mem_nil, or_false] at h
    have hpieces : FilePath.pieces ⟨name⟩ = [name] := by
      rcases h with ⟨rfl, -⟩ | ⟨rfl, -⟩ | ⟨rfl, -⟩ <;> decide +kernel
    have hrelative : FilePath.isAbsolute ⟨name⟩ = false := by
      rcases h with ⟨rfl, -⟩ | ⟨rfl, -⟩ | ⟨rfl, -⟩ <;> decide +kernel
    rcases h with ⟨rfl, rfl⟩ | ⟨rfl, rfl⟩ | ⟨rfl, rfl⟩ <;>
      simp [FileSystem.locate, FileSystem.resolve, hpieces, FileSystem.follow,
        FileSystem.entryAt?, chainTree, Entry.descend?, Entry.child?, Entry.entries,
        FileSystem.startOf, hrelative, Entry.isDir, Component.ofSegment?, List.lookup_cons, bind,
        Except.bind]
  have hdecode : String.fromUTF8? text.toUTF8 = some text := dif_pos text.isValidUTF8
  have hbytes : chainTree.readBytes ⟨name⟩ = .ok text.toUTF8 := by
    rw [FileSystem.readBytes, hlocate]
    rfl
  refine ⟨by rw [FileSystem.isFile, hlocate], hbytes, ?_⟩
  rw [FileSystem.readText, hbytes]
  simp only [bind, Except.bind, hdecode]

/-- What a check of the tree gathers. -/
theorem gathered_chainTree :
    Check.Gathered chainTree [] ChainExample.languages chainSettings chainConfig [] []
      [ruleB, ruleC] chainAnalyzer ⟨[⟨"A.java"⟩], []⟩ where
  loaded := by
    obtain ⟨-, -, htext⟩ := @readText_chainTree "callgate.toml" chainConfigText (by simp)
    obtain ⟨hconfig, hrules, -⟩ := parse_chainTexts
    simp [Config.locate?, chainSettings, Check.load, Config.ofFile, loadRulesFrom, Config.readFile,
      htext, hconfig, hrules, bind, Except.bind, Except.mapError, pure, Except.pure]
  builtIn_eq := rfl
  more_eq := by
    obtain ⟨-, -, htext⟩ := @readText_chainTree "rules.toml" chainRulesText (by simp)
    obtain ⟨-, -, hrules⟩ := parse_chainTexts
    simp [chainSettings, Check.fileRules, loadRulesFrom, Config.readFile, htext, hrules, bind,
      Except.bind, Except.mapError]
  built := by
    have hrules : Check.assemble chainConfig [] [] [ruleB, ruleC] =
        [ruleB.withSeverity .warning] := by decide +kernel
    obtain ⟨registry, hall, -⟩ : ∃ r', Registry.empty.registerAll [ruleB.withSeverity .warning] =
        (r', none) ∧ r'.activeRules = [ruleB.withSeverity .warning] :=
      Registry.registerAll_of_nodup (List.nodup_singleton _)
    rw [hrules, Analyzer.build, hall, chainAnalyzer, hall]
    rfl
  discovered := by
    have hpatterns : (["**/build/**", "**/generated/**"].mapM
        Pattern.ExcludePattern.parse).toBool = true := by decide +kernel
    cases hparse : ["**/build/**", "**/generated/**"].mapM Pattern.ExcludePattern.parse with
    | error e =>
      rw [hparse] at hpatterns
      contradiction
    | ok patterns =>
      obtain ⟨hfile, -, -⟩ := @readText_chainTree "A.java" ChainExample.text (by simp)
      simp [Check.discover, Discovery.addExcludes, hparse, Discovery.collect, Discovery.look, hfile,
        Check.pathsOf, chainSettings, chainConfig, Discovery.sortedPaths, Discovery.firstSpellings,
        Failure.sorted, bind, Except.bind, Except.mapError, pure, Except.pure]

/-- The call of `b` violates the rule that was made a warning. -/
theorem violates_chainTree :
    chainAnalyzer.Violates chainConfig [ruleB, ruleC] (.ofPath chainTree ⟨"A.java"⟩)
      ⟨some "a.L", "b", .resolved "a.L", ⟨⟨"A.java"⟩, 1, 5, 4, 10⟩⟩ ruleB "a.L" where
  found := by
    obtain ⟨-, hbytes, htext⟩ := @readText_chainTree "A.java" ChainExample.text (by simp)
    have hextension : (SourceUnit.ofPath chainTree ⟨"A.java"⟩).extension = ".java" := by
      decide +kernel
    obtain ⟨hhandled, htraversed⟩ := ChainExample.traverse_text (.inl hextension)
    have hsize : (SourceUnit.ofPath chainTree ⟨"A.java"⟩).size =
        .ok ChainExample.text.toUTF8.size := by
      rw [SourceUnit.ofPath, hbytes]
      rfl
    have hread : (SourceUnit.ofPath chainTree ⟨"A.java"⟩).text = .ok ChainExample.text := by
      rw [SourceUnit.ofPath, htext]
      rfl
    exact ⟨_, _, ⟨List.find?_cons_of_pos hhandled, ⟨_, hsize, by decide +kernel⟩, _, hread,
      htraversed⟩, List.mem_cons_of_mem _ List.mem_cons_self, rfl⟩
  listed := List.mem_cons_self
  enabled := by decide +kernel
  method := by decide
  receiver _ := rfl
  owner := by decide
  severe := by decide +kernel

/-- The instance of this check: the call fails it because the configuration makes the rule a
warning and fails from warnings on.  With errors only, the same run would be clean. -/
theorem isClean_iff_no_violation_chainTree :
    (∃ s, chainAnalyzer.Finishes (Check.unitsOf chainTree ⟨[⟨"A.java"⟩], []⟩) s ∧
      Check.isClean chainConfig (s.report.recordFailures []) = false ∧
      Check.isClean { chainConfig with failOn := none } (s.report.recordFailures []) = true) ∧
    ∃ outcome, Invocation.run ⟨.check, chainSettings⟩ chainTree [] ChainExample.languages =
      .ok outcome ∧ outcome.code ≠ 0 := by
  obtain ⟨hverdict, hcommand⟩ := isClean_iff_no_violation
  have hviolation : ∃ u ∈ Check.unitsOf chainTree ⟨[⟨"A.java"⟩], []⟩, ∃ c type r,
      chainAnalyzer.Violates chainConfig ([] ++ [] ++ [ruleB, ruleC]) u c r type :=
    ⟨_, List.mem_cons_self, _, _, _, violates_chainTree⟩
  constructor
  · obtain ⟨s, hs, -, hreport⟩ :=
      chainAnalyzer.yields_analyze (Check.unitsOf chainTree ⟨[⟨"A.java"⟩], []⟩)
    have hskipped : s.report.skipped = 0 := by rw [hreport, Analyzer.skipped_analyze]
    refine ⟨s, hs, Bool.eq_false_iff.2 fun hclean => ?_, ?_⟩
    · exact ((hverdict gathered_chainTree.built hs []).1 hclean).2 hviolation
    · have hbuilt : Analyzer.build .empty
          (Check.assemble { chainConfig with failOn := none } [] [] [ruleB, ruleC])
          [Language.adapter ChainExample.languages] (4 * 1024 * 1024) = .ok chainAnalyzer :=
        gathered_chainTree.built
      refine (hverdict hbuilt hs []).2 ⟨hskipped, ?_⟩
      rintro ⟨u, -, c, type, r, hviolates⟩
      rcases List.mem_pair.1 hviolates.listed with rfl | rfl
      · exact absurd hviolates.severe (by decide +kernel)
      · exact absurd hviolates.enabled (by decide +kernel)
  · obtain ⟨-, hcode⟩ := hcommand gathered_chainTree
    obtain ⟨outcome, hrun, hiff⟩ := hcode ⟨.check, chainSettings⟩ rfl rfl
    exact ⟨outcome, hrun, fun hzero => hiff.1 hzero hviolation⟩

end CommandLine

end ForbiddenCalls
