import ImportLookup.Proofs.WatchSteps

/-!
# A converted file is not converted again

A conversion writes to a file in the directory that is watched, so it causes an
event in its turn, and the file is given out once more. This comes to an end at
once: a converted file is settled, a settled file is not written, and nobody but
an outsider can unsettle it. So between two writes from outside a file is written
at most once, whatever paths lead to it and whatever events arrive.

`DiskStep.settles` and `DiskStep.settled` say what one step does to a place,
`steps_account` what a whole run comes to.
-/

namespace ImportLookup

open Bytes (newline)

namespace Command

namespace Watching

/-- The file at a place, if there is one, has nothing in it to convert. -/
def Settled (l : Lookup) (d : Disk) (q : Place) : Prop :=
  ∀ m c, d.tree.node? q = some (.file m c) → l.text c = c

/-- The place that others have changed. -/
def Act.outside? : Act → Option Place
  | outside place => some place
  | _ => none

/-- How often the file at a place was written by conversions. -/
def conversions (q : Place) (acts : List Act) : Nat := acts.countP fun a => a.written? = some q

/-- How often the file at a place was written by others. -/
def intrusions (q : Place) (acts : List Act) : Nat := acts.countP fun a => a.outside? = some q

/-- Only an outsider or a conversion of its file changes what is at a place. -/
theorem DiskStep.node? {l : Lookup} {d d' : Disk} {a : Act} {q : Place} (h : DiskStep l d a d')
    (hout : a.outside? ≠ some q) (hwrite : a.written? ≠ some q) :
    d'.tree.node? q = d.tree.node? q := by
  cases h with
  | @outside p d' helse =>
      refine helse q ?_
      rintro rfl
      exact hout rfl
  | same _ _ => rfl
  | @converted _ p m c _ hp hnode _ =>
      have hne : q ≠ p := by
        rintro rfl
        exact hwrite hp
      rw [Disk.node?_setFile hnode, if_neg hne]

/-- **Only a file that is not settled is written, and then it is settled.** -/
theorem DiskStep.settles {l : Lookup} (hns : newline ∉ l.base) {d d' : Disk} {a : Act} {q : Place}
    (h : DiskStep l d a d') (hwrite : a.written? = some q) : ¬ Settled l d q ∧ Settled l d' q := by
  cases h with
  | outside _ => exact nomatch hwrite
  | same _ hnone => rw [hnone] at hwrite; exact nomatch hwrite
  | @converted _ p m c _ hp hnode hne =>
      obtain rfl : p = q := Option.some.inj (hp.symm.trans hwrite)
      refine ⟨fun hset => hne (hset m c hnode), ?_⟩
      intro m' c' hnode'
      rw [Disk.node?_setFile hnode, if_pos rfl] at hnode'
      obtain ⟨_, rfl⟩ := Node.file.inj (Option.some.inj hnode')
      exact Lookup.text_text hns c

theorem DiskStep.settled {l : Lookup} (hns : newline ∉ l.base) {d d' : Disk} {a : Act} {q : Place}
    (h : DiskStep l d a d') (hout : a.outside? ≠ some q) (hset : Settled l d q) :
    Settled l d' q := by
  by_cases hwrite : a.written? = some q
  · exact (h.settles hns hwrite).2
  · intro m c hnode
    rw [h.node? hout hwrite] at hnode
    exact hset m c hnode

/-- **The account of a place over a whole run.** A file that is settled at the start has one
conversion less to its credit. -/
theorem steps_account {w w' : Watching} {acts : List Act} (h : Steps w acts w')
    (hns : newline ∉ w.options.base) (q : Place) :
    conversions q acts ≤ 1 + intrusions q acts
      ∧ (Settled (Run.lookup w.options) w.session.disk q →
          conversions q acts ≤ intrusions q acts) := by
  induction h with
  | refl => exact ⟨Nat.zero_le _, fun _ => Nat.le_refl _⟩
  | @cons w w₁ w₂ a acts hstep _ ih =>
      have hdisk := step_disk hstep
      have hbase := Run.newline_not_mem_lookup hns
      have hoptions := (step_settings hstep).1
      rw [hoptions] at ih
      obtain ⟨hrest, hrest'⟩ := ih hns
      have hconv : conversions q (a :: acts)
          = conversions q acts + if a.written? = some q then 1 else 0 := by
        simp [conversions, List.countP_cons]
      have hintr : intrusions q (a :: acts)
          = intrusions q acts + if a.outside? = some q then 1 else 0 := by
        simp [intrusions, List.countP_cons]
      rw [hconv, hintr]
      by_cases hwrite : a.written? = some q
      · -- the file was not settled, and from now on it is
        obtain ⟨hunset, hset⟩ := hdisk.settles hbase hwrite
        have := hrest' hset
        rw [if_pos hwrite]
        exact ⟨by omega, fun h => absurd h hunset⟩
      rw [if_neg hwrite]
      by_cases hout : a.outside? = some q
      · -- a write from outside pays for the conversion that it may call for
        rw [if_pos hout]
        exact ⟨by omega, fun _ => by omega⟩
      · rw [if_neg hout]
        exact ⟨hrest, fun hset => hrest' (hdisk.settled hbase hout hset)⟩

/-- The writes of a run are on the account of its session. -/
theorem steps_writes {w w' : Watching} {acts : List Act} (h : Steps w acts w') :
    w'.session.writes.length = w.session.writes.length
      + (acts.countP (fun a => a.written?.isSome) + acts.countP Act.refused) := by
  induction h with
  | refl => rfl
  | @cons w w₁ w₂ a acts hstep _ ih =>
      rw [ih, step_writes hstep, List.countP_cons, List.countP_cons]
      cases a.written?.isSome <;> cases a.refused <;> simp <;> omega

theorem steps_options {w w' : Watching} {acts : List Act} (h : Steps w acts w') :
    w'.options = w.options := by
  induction h with
  | refl => rfl
  | cons hstep _ ih => rw [ih, (step_settings hstep).1]

/--
**The writes of a watcher do not feed on themselves.**

In every run, whatever is written from outside and whatever events arrive, the file at a place is
written by conversions at most once while nobody else writes it, and in total at most once more than
it is written by others. Every write that the disk was asked for was made, and then it is counted at
some place, or was refused.
-/
theorem conversions_bounded {w w' : Watching} {acts : List Act} (hns : newline ∉ w.options.base)
    (h : Steps w acts w') (q : Place) :
    (∀ before between after, acts = before ++ (between ++ after) →
      (∀ a ∈ between, a.outside? ≠ some q) →
        conversions q between ≤ 1)
      ∧ conversions q acts ≤ 1 + intrusions q acts
      ∧ w'.session.writes.length = w.session.writes.length
          + (acts.countP (fun a => a.written?.isSome) + acts.countP Act.refused) := by
  refine ⟨?_, (steps_account h hns q).1, steps_writes h⟩
  rintro before between after rfl hquiet
  obtain ⟨w₁, hbefore, hrest⟩ := h.split
  obtain ⟨w₂, hbetween, _⟩ := hrest.split
  have hnone : intrusions q between = 0 :=
    List.countP_eq_zero.mpr fun a ha => by simpa using hquiet a ha
  have haccount := (steps_account hbetween (steps_options hbefore ▸ hns) q).1
  rwa [hnone] at haccount

/-- A watched directory with a file that has something to convert in it, and a link to that file. -/
def linked : Watching :=
  { options := {}, watcher := { dir := utf8 "d", ext := utf8 ".js" }, session := Run.linked }

/-- The file has been given out once, under its own name. -/
def linkedOnce : Watching := linked.arrival (utf8 "d/a.js") [.write] 0

/-- The file has been given out once more, because of the write that was made. -/
def linkedTwice : Watching := linkedOnce.arrival (utf8 "d/a.js") [.write] 1

/-- All this, and the file is given out under the name of the link. -/
def linkedActs : List Act :=
  linked.arrivalActs (utf8 "d/a.js") [.write] 0
    ++ (linkedOnce.arrivalActs (utf8 "d/a.js") [.write] 1
      ++ linkedTwice.arrivalActs (utf8 "d/b.js") [.create] 2)

theorem conversions_bounded_linked :
    newline ∉ linked.options.base
      ∧ Steps linked linkedActs (linkedTwice.arrival (utf8 "d/b.js") [.create] 2)
      ∧ linkedActs.filterMap Act.given? = [utf8 "d/a.js", utf8 "d/a.js", utf8 "d/b.js"]
      ∧ conversions [utf8 "a.js", utf8 "d"] linkedActs = 1
      ∧ conversions [utf8 "a.js", utf8 "d"] linkedActs
          ≤ 1 + intrusions [utf8 "a.js", utf8 "d"] linkedActs := by
  have hns : newline ∉ linked.options.base := by decide
  have hwrite : Counts [.write] := Or.inr List.mem_cons_self
  have hcreate : Counts [.create] := Or.inl List.mem_cons_self
  have hsteps : Steps linked linkedActs (linkedTwice.arrival (utf8 "d/b.js") [.create] 2) :=
    (steps_arrival hwrite linked _ _).append
      ((steps_arrival hwrite linkedOnce _ _).append (steps_arrival hcreate linkedTwice _ _))
  exact ⟨hns, hsteps, rfl, by cbv, (conversions_bounded hns hsteps _).2.1⟩

end Watching

end Command

end ImportLookup
