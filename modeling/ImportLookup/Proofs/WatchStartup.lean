import ImportLookup.Proofs.SecondPass
import ImportLookup.Proofs.WatchDelivery

/-!
# Starting to watch

The command lists the directory, converts the files it found one by one, and only
then has itself told of events. Others may write at any moment of this. A write to
a file that the pass has still ahead of it is caught by the pass, and one that
comes after the registration by its event. A write in between, to a file whose turn
is over or that was not there when the directory was listed, is caught by neither.
All other files are converted in the end (`startup_answered`). What is written when
the pass is over and nothing is registered yet stays as it is, if nothing else
happens (`late_write_stays`).

Without writes from outside, the command is a run of this system (`start_reached`).
-/

namespace ImportLookup

open Bytes (newline)

namespace Command

/-- The first pass: the paths it has still ahead of it, and the ledger of the files it answers
for. -/
structure Pass where
  session : Session
  ahead : List Bytes
  ledger : Ledger

namespace Pass

/-- One thing happens. No conversion fails. -/
inductive Step (o : RunOptions) : Pass → Pass → Prop where
  /-- The next file has its turn. -/
  | file {s : Session} {path : Bytes} {ahead : List Bytes} {ledger : Ledger} :
      (Run.file o s path).1.failure = none →
      Step o ⟨s, path :: ahead, ledger⟩ ⟨(Run.file o s path).2, ahead, ledger⟩
  /-- Others write a file that a path ahead leads to. -/
  | caught {s : Session} {d : Disk} {path : Bytes} {ahead : List Bytes} {ledger : Ledger}
      {q : Place} {m : Mode}
      {c : Bytes} :
      s.disk.FilePut q d → path ∈ ahead → d.follow path = .ok (q, .file m c) →
      Step o ⟨s, ahead, ledger⟩ ⟨{ s with disk := d }, ahead,
        Function.update ledger q (some (path, c))⟩
  /-- Others write a file that no path ahead leads to. -/
  | missed {s : Session} {d : Disk} {ahead : List Bytes} {ledger : Ledger} {q : Place} :
      s.disk.FilePut q d → (∀ path ∈ ahead, ¬ d.Reaches path q) →
      Step o ⟨s, ahead, ledger⟩ ⟨{ s with disk := d }, ahead, Function.update ledger q none⟩
  /-- Something is logged. -/
  | log {s s' : Session} {ahead : List Bytes} {ledger : Ledger} :
      s'.unlogged = s.unlogged → Step o ⟨s, ahead, ledger⟩ ⟨s', ahead, ledger⟩

/-- One thing happens after the other. -/
abbrev Steps (o : RunOptions) : Pass → Pass → Prop := Relation.ReflTransGen (Step o)

/-- The files that some paths lead to, as they are. -/
def opening (d : Disk) (paths : List Bytes) : Ledger := fun q =>
  paths.findSome? fun path =>
    match d.follow path with
    | .ok (p, .file _ c) => if p = q then some (path, c) else none
    | _ => none

theorem opening_spec {d : Disk} {paths : List Bytes} {q : Place} {path c : Bytes}
    (h : opening d paths q = some (path, c)) :
    path ∈ paths ∧ ∃ m, d.follow path = .ok (q, .file m c) := by
  obtain ⟨path', hmem, hfound⟩ := List.exists_of_findSome?_eq_some h
  split at hfound
  · rename_i p m c' hf
    split at hfound
    · rename_i hp
      obtain ⟨rfl, rfl⟩ := Prod.mk.inj (Option.some.inj hfound)
      exact ⟨hmem, m, hp ▸ hf⟩
    · exact nomatch hfound
  · exact nomatch hfound

/-- Every file that some of the paths lead to is on the opening ledger, with what is in it. -/
theorem opening_of_follow {d : Disk} {paths : List Bytes} {q : Place} {path : Bytes}
    {m : Mode} {c : Bytes} (hmem : path ∈ paths) (hf : d.follow path = .ok (q, .file m c)) :
    ∃ path', opening d paths q = some (path', c) := by
  cases hfound : opening d paths q with
  | none =>
      have hnone := List.findSome?_eq_none_iff.mp hfound path hmem
      rw [hf] at hnone
      dsimp only at hnone
      rw [if_pos rfl] at hnone
      exact nomatch hnone
  | some entry =>
      obtain ⟨path', c'⟩ := entry
      obtain ⟨_, m', hf'⟩ := opening_spec hfound
      have hnode := Disk.node?_of_follow hf
      rw [Disk.node?_of_follow hf'] at hnode
      obtain ⟨_, rfl⟩ := Node.file.inj (Option.some.inj hnode)
      exact ⟨path', rfl⟩

/-! ## The invariant -/

/-- What the pass answers for is converted, or its path is still ahead. -/
structure UpToDate (o : RunOptions) (p : Pass) : Prop where
  clean : ∀ path ∈ p.ahead, Path.clean path = path
  files : p.session.disk.UpToDate (Run.lookup o) p.ledger (· ∈ p.ahead)

theorem upToDate_opening {s : Session} {dir ext : Bytes} {paths : List Bytes}
    (h : Selection.files s.disk dir ext = .ok paths) (o : RunOptions) :
    UpToDate o ⟨s, paths, opening s.disk paths⟩ := by
  have hclean : ∀ path ∈ paths, Path.clean path = path := fun path hp => Selection.clean_of_mem h hp
  refine ⟨hclean, ?_⟩
  intro q path c hq
  obtain ⟨hmem, m, hf⟩ := opening_spec hq
  exact ⟨hclean path hmem, m, c, hf, Or.inr ⟨rfl, hmem⟩⟩

/-- **The invariant is kept by every step.** -/
theorem upToDate_step {o : RunOptions} (hreal : o.dryRun = false) (hns : newline ∉ o.base)
    {p p' : Pass} (h : p.UpToDate o) (hstep : Step o p p') : p'.UpToDate o := by
  cases hstep with
  | @file s path ahead ledger hnone =>
      refine ⟨fun p hp => h.clean p (List.mem_cons_of_mem _ hp), ?_⟩
      have hconv := (Run.file_converts_clean hreal s path).congr fun p => (and_iff_right hnone).symm
      refine (h.files.convert (Run.newline_not_mem_lookup hns) hconv).mono ?_
      rintro q path' c _ _ ⟨hmem, hne⟩
      exact (List.mem_cons.mp hmem).resolve_left hne
  | caught hput hmem hf => exact ⟨h.clean, h.files.put hput (h.clean _ hmem) hf hmem fun _ hp => hp⟩
  | missed hput _ => exact ⟨h.clean, h.files.forget hput⟩
  | log hlog =>
      refine ⟨h.clean, ?_⟩
      rw [Session.disk_of_unlogged hlog]
      exact h.files

theorem upToDate_steps {o : RunOptions} (hreal : o.dryRun = false) (hns : newline ∉ o.base)
    {p p' : Pass} (h : p.UpToDate o) (hsteps : Steps o p p') : p'.UpToDate o := by
  induction hsteps with
  | refl => exact h
  | tail _ hstep ih => exact upToDate_step hreal hns ih hstep

/-! ## The pass of a run -/

/-- Calls that do not fail are the pass over their paths. -/
theorem steps_of_chain {o : RunOptions} {s s' : Session} {calls : List Run.Call}
    (h : Run.Chain o s calls s') (hfine : ∀ call ∈ calls, call.result.failure = none)
    (ledger : Ledger) :
    Steps o ⟨s, calls.map (·.result.path), ledger⟩ ⟨s', [], ledger⟩ := by
  induction h with
  | nil hlog => exact .single (.log hlog)
  | @cons s s' call calls hlog hfile _ ih =>
      have hnone : (Run.file o call.before call.result.path).1.failure = none := by
        rw [hfile]
        exact hfine call List.mem_cons_self
      have hturn : Step o ⟨call.before, (call :: calls).map (·.result.path), ledger⟩
          ⟨(Run.file o call.before call.result.path).2, calls.map (·.result.path), ledger⟩ :=
        .file hnone
      rw [hfile] at hturn
      exact .head (.log hlog) (.head hturn (ih fun c hc => hfine c (List.mem_cons_of_mem _ hc)))

/-- **A run over a directory that reports nothing is a pass**, with nobody else writing. -/
theorem steps_dir {o : RunOptions} {s : Session} {dir ext : Bytes} {paths : List Bytes}
    (hselect : Selection.files s.disk dir ext = .ok paths)
    (hnone : (Run.dir o none s dir ext).2.1 = none) (ledger : Ledger) :
    Steps o ⟨s, paths, ledger⟩ ⟨(Run.dir o none s dir ext).2.2, [], ledger⟩ := by
  obtain ⟨hreport, hending⟩ := Run.dir_report hselect o none
  rw [hreport, Run.report_none_iff hending, Run.results_dir hselect, List.length_map] at hnone
  obtain ⟨hlength, hfine⟩ := hnone
  have hpaths : (Run.made o none (Run.begun s dir ext paths) paths).map (·.result.path)
      = paths := by
    rw [Run.paths_made]
    refine List.take_of_length_le ?_
    have hmade := congrArg List.length (Run.paths_made o none (Run.begun s dir ext paths) paths)
    rw [List.length_map, hlength, List.length_take] at hmade
    omega
  have hchain := steps_of_chain (Run.chain_dir hselect o none) (fun call hcall => by
    have hrecorded := hfine _ (List.mem_map_of_mem hcall)
    rwa [FileResult.recorded_failure] at hrecorded) ledger
  rwa [hpaths] at hchain

end Pass

/-! ## The whole command -/

/-- Where the command can have got to that listed a directory in a session: through the pass, and
from the registration on through whatever happens in the directory that is watched. -/
inductive Reached (o : RunOptions) (dir ext : Bytes) (s : Session) : Site → Prop where
  | watching {paths : List Bytes} {s' : Session} {ledger : Ledger} {watcher : Watcher}
      {site : Site} :
      Selection.files s.disk dir ext = .ok paths →
      Pass.Steps o ⟨s, paths, Pass.opening s.disk paths⟩ ⟨s', [], ledger⟩ →
      Watcher.start s'.disk dir ext = .ok watcher →
      Site.Steps { watching := ⟨o, watcher, s'⟩, ledger } site → Reached o dir ext s site

/-- A watcher starts with nothing waiting. -/
theorem pending_start {d : Disk} {dir ext : Bytes} {watcher : Watcher}
    (h : Watcher.start d dir ext = .ok watcher) : watcher.pending = [] := by
  rw [Watcher.start_eq h]

/--
**The command converts every file that is written at the right moment.**

Once no event is on its way and nothing waits, every file on the ledger contains what was last
written to it, converted. These are the files that the selected paths led to when the directory was
listed, those that were written while the pass had a path to them ahead, and those that were written
after the registration; only a write that the pass has missed takes a file off.
-/
theorem startup_answered {o : RunOptions} (hreal : o.dryRun = false) (hns : newline ∉ o.base)
    {dir ext : Bytes} {s : Session} {site : Site} (h : Reached o dir ext s site)
    (hflight : site.inFlight = []) (hpending : site.watching.watcher.pending = []) :
    (∀ q path c, site.ledger q = some (path, c) →
      ∃ m, site.watching.session.disk.tree.node? q = some (.file m ((Run.lookup o).text c)))
    ∧ ∀ paths, Selection.files s.disk dir ext = .ok paths → ∀ path ∈ paths, ∀ q m c,
        s.disk.follow path = .ok (q, .file m c) →
        ∃ path', Pass.opening s.disk paths q = some (path', c) := by
  refine ⟨?_, fun paths _ path hmem q m c hf => Pass.opening_of_follow hmem hf⟩
  cases h with
  | @watching paths s' ledger watcher _ hselect hpass hregister hwatch =>
      have hdone := Pass.upToDate_steps hreal hns (Pass.upToDate_opening hselect o) hpass
      -- at the end of the pass nothing is ahead, so every file it answers for is converted
      have hstart : Site.UpToDate { watching := ⟨o, watcher, s'⟩, ledger } :=
        hdone.files.mono fun _ _ _ _ _ hahead => nomatch hahead
      obtain ⟨hup, hoptions⟩ := Site.upToDate_steps hreal hns hstart hwatch
      intro q path c hq
      have hconverted := Site.converted_of_quiet hup hflight hpending hq
      rwa [hoptions] at hconverted

/-- The directory with a link, after others wrote its last file while the pass was going on. -/
def linkedCaught : Session :=
  { Run.linked with disk := Run.linked.disk.setFile [utf8 "c.js", utf8 "d"] .newFile Site.fresh }

/-- The paths that the pass goes through. -/
def linkedPaths : List Bytes := [utf8 "d/a.js", utf8 "d/b.js", utf8 "d/c.js"]

/-- The file that others wrote goes on the ledger. -/
def linkedLedger : Ledger :=
  Function.update (Pass.opening Run.linked.disk linkedPaths) [utf8 "c.js", utf8 "d"]
    (some (utf8 "d/c.js", Site.fresh))

theorem startup_answered_linked : ∃ site : Site,
    ({} : RunOptions).dryRun = false ∧ newline ∉ ({} : RunOptions).base
    ∧ Reached {} (utf8 "d") (utf8 ".js") Run.linked site ∧ site.inFlight = []
        ∧ site.watching.watcher.pending = []
    ∧ site.ledger [utf8 "c.js", utf8 "d"] = some (utf8 "d/c.js", Site.fresh)
    ∧ ∃ m, site.watching.session.disk.tree.node? [utf8 "c.js", utf8 "d"]
        = some (.file m ((Run.lookup {}).text Site.fresh)) := by
  have hns : newline ∉ ({} : RunOptions).base := by decide
  have hselect : Selection.files Run.linked.disk (utf8 "d") (utf8 ".js") = .ok linkedPaths := by cbv
  have hselect' : Selection.files linkedCaught.disk (utf8 "d") (utf8 ".js") = .ok linkedPaths := by
    cbv
  have hput : Run.linked.disk.FilePut [utf8 "c.js", utf8 "d"] linkedCaught.disk :=
    Disk.filePut_set (by decide) (Or.inr ⟨_, _, rfl⟩) .newFile Site.fresh
  have hcaught : Pass.Step {} ⟨Run.linked, linkedPaths, Pass.opening Run.linked.disk linkedPaths⟩
      ⟨linkedCaught, linkedPaths, linkedLedger⟩ := .caught hput (by decide) (by cbv)
  have hpass := Pass.steps_dir (o := {}) hselect' (by cbv) linkedLedger
  have hregister : Watcher.start
      (Run.dir {} none linkedCaught (utf8 "d") (utf8 ".js")).2.2.disk (utf8 "d")
      (utf8 ".js") = .ok { dir := utf8 "d", ext := utf8 ".js" } := by cbv
  have hreached := Reached.watching hselect (.head hcaught hpass) hregister .refl
  have hledger : linkedLedger [utf8 "c.js", utf8 "d"] = some (utf8 "d/c.js", Site.fresh) :=
    Function.update_self [utf8 "c.js", utf8 "d"] _ _
  exact ⟨_, rfl, hns, hreached, rfl, rfl, hledger,
    (startup_answered rfl hns hreached rfl rfl).1 _ _ _ hledger⟩

/-- **A write between the pass and the registration stays as it is**, whatever is in it. -/
theorem late_write_stays {o : RunOptions} {dir ext : Bytes} {s s' : Session} {paths : List Bytes}
    {ledger : Ledger} (hselect : Selection.files s.disk dir ext = .ok paths)
    (hpass : Pass.Steps o ⟨s, paths, Pass.opening s.disk paths⟩ ⟨s', [], ledger⟩) {q : Place}
    {d : Disk} {m : Mode} {c : Bytes} (hput : s'.disk.FilePut q d)
    (hnode : d.tree.node? q = some (.file m c)) {watcher : Watcher}
    (hregister : Watcher.start d dir ext = .ok watcher) :
    ∃ site, Reached o dir ext s site ∧ site.inFlight = [] ∧ site.watching.watcher.pending = []
      ∧ site.watching.session.disk.tree.node? q = some (.file m c) :=
  ⟨_, .watching hselect (hpass.tail (.missed hput fun _ hahead => nomatch hahead)) hregister .refl,
    rfl, pending_start hregister, hnode⟩

/-- **With nobody else writing, this is what the command does**, and it answers for every file that
it listed. -/
theorem start_reached {g : Globals} {c : Watch} {s : Session} {w : Watching} {settings : Settings}
    (hresolve : g.resolve s.disk c.dir = (settings, none))
    (hnone : (Run.dir (g.options settings false .discard) none s settings.dir settings.ext).2.1
      = none)
    (hstart : Watch.start g c none s = .ok w) :
    ∃ paths, Selection.files s.disk settings.dir settings.ext = .ok paths
      ∧ Reached (g.options settings false .discard) settings.dir settings.ext s
          { watching := w, ledger := Pass.opening s.disk paths } := by
  cases hselect : Selection.files s.disk settings.dir settings.ext with
  | error e => rw [Run.dir_of_error hselect] at hnone; exact nomatch hnone
  | ok paths =>
      have hpass := Pass.steps_dir hselect hnone (Pass.opening s.disk paths)
      unfold Watch.start at hstart
      rw [hresolve] at hstart
      dsimp only at hstart
      rw [hnone] at hstart
      dsimp only at hstart
      split at hstart
      · exact nomatch hstart
      · rename_i watcher hregister
        have hw := Except.ok.inj hstart
        -- what is logged before and after the registration makes no difference to it
        have hlog : w.session.unlogged
            = (Run.dir (g.options settings false .discard) none s settings.dir
              settings.ext).2.2.unlogged := by
          rw [← hw]
          rfl
        have hwatch : Site.Step
            { watching := ⟨g.options settings false .discard, watcher, w.session⟩
              ledger := Pass.opening s.disk paths }
            { watching := w, ledger := Pass.opening s.disk paths } := by
          rw [← hw]
          exact .setDebounce (.setDebounce _ _)
        have hregister' : Watcher.start w.session.disk settings.dir settings.ext = .ok watcher := by
          rw [Session.disk_of_unlogged hlog]
          exact hregister
        exact ⟨paths, rfl, .watching hselect (hpass.tail (.log hlog)) hregister' (.single hwatch)⟩

/-- A directory that is named through a link and a step up. Next to the link there is a file of the
same name as in the directory. -/
def throughLink : Session :=
  { disk :=
      { tree := ⟨[([utf8 "x"], .dir .newDir), ([utf8 "y", utf8 "x"], .dir .newDir),
          ([utf8 "a.js", utf8 "x"], .file .newFile Site.fresh),
          ([utf8 "a.js"], .file .newFile (utf8 "let b;\n")),
          ([utf8 "l"], .link (utf8 "x/y"))]⟩
        cwd := [] } }

/-- Two files that the command leaves as they are: one that was written when its turn was over, and
one in a directory whose name means something else when it is cleaned. -/
theorem startup_leaves_out :
    (Run.lookup {}).text Site.fresh ≠ Site.fresh
    ∧ (∃ site, Reached {} (utf8 "d") (utf8 ".js") Run.linked site ∧ site.inFlight = []
        ∧ site.watching.watcher.pending = []
        ∧ site.watching.session.disk.tree.node? [utf8 "a.js", utf8 "d"]
            = some (.file .newFile Site.fresh))
    ∧ throughLink.disk.follow (utf8 "l/..") = .ok ([utf8 "x"], .dir .newDir)
    ∧ (Watch.start {} { dir := utf8 "l/.." } none throughLink).toOption.map
        (fun w => (w.watcher.pending, w.session.disk.tree.node? [utf8 "a.js", utf8 "x"]))
      = some ([], some (.file .newFile Site.fresh)) := by
  have htext : (Run.lookup {}).text Site.fresh = utf8 "const N = Self.imports.n;\n" := by cbv
  refine ⟨by rw [htext]; decide, ?_, by cbv, by cbv⟩
  have hselect : Selection.files Run.linked.disk (utf8 "d") (utf8 ".js") = .ok linkedPaths := by cbv
  have hpass := Pass.steps_dir (o := {}) hselect (by cbv) (Pass.opening Run.linked.disk linkedPaths)
  have hfile : ∃ m c, (Run.dir {} none Run.linked (utf8 "d") (utf8 ".js")).2.2.disk.tree.node?
      [utf8 "a.js", utf8 "d"] = some (.file m c) :=
        ⟨.newFile, utf8 "const A = Self.imports.a;\n", by cbv⟩
  have hput := Disk.filePut_set (by decide) (Or.inr hfile) .newFile Site.fresh
  have hregister : Watcher.start
      ((Run.dir {} none Run.linked (utf8 "d") (utf8 ".js")).2.2.disk.setFile
      [utf8 "a.js", utf8 "d"] .newFile Site.fresh) (utf8 "d") (utf8 ".js")
      = .ok { dir := utf8 "d", ext := utf8 ".js" } := by cbv
  exact late_write_stays hselect hpass hput (by cbv) hregister

end Command

end ImportLookup
