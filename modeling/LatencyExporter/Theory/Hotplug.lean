import LatencyExporter.Theory.Conservation
import LatencyExporter.Theory.DiskLabels

/-!
# Volumes That Are Plugged In Later

The volumes of the drives are found once, when a machine is first seen. Drives
come and go afterwards, and the guest may use the number of a drive that is gone
for the next one that comes. The label of a drive is looked up by its number,
so such a drive gets the volume of its predecessor.

A machine is tracked here together with what is plugged into it. Of a drive that
was there from the start, the mapping knows the volume; that is the invariant
`Machine` carries. A run mixes scrapes with plugging and unplugging in any
order. Its labels are right exactly if no scrape measures a drive that the
mapping knows and that is not the one it knew (`labels_right_iff`).

## Main definitions

* `Attached`, `Machine`: A tracked machine and its drives.
* `Event`, `step`: What happens to it.
* `emittedDisks`: The drives a scrape reports.
* `AtScrapes`: Something holds at every scrape of a run.
* `LabelsRight`: What the labels of a scrape should say.
* `NotReplaced`: No measured drive took the number of another.

## Theorems

* `mem_diskLoop`: The labels of a loop.
* `emittedDisks_of_ok`, `readings_of_mem_emittedDisks`: The drives a scrape reports.
* `labelsRight_iff`: One scrape.
* `labels_right_iff`: A run.
-/

namespace LatencyExporter

namespace Qga

/-- A drive that is plugged in: its volume, and whether it came after the
    machine was first seen. -/
structure Attached where
  volume : String
  hotplugged : Bool
deriving DecidableEq

/-- A tracked machine and the drives that are plugged into it, by number. The
    mapping names volumes, and those of the drives that were there from the
    start. -/
structure Machine where
  vs : VmState
  drives : Int → Option Attached
  named : ∀ i volName, vs.diskMap i = some volName → volName ≠ ""
  original : ∀ i volName a, vs.diskMap i = some volName → drives i = some a →
    a.hotplugged = false → a.volume = volName

/-- What happens to a machine. -/
inductive Event where
  | unplug (drive : Int)
  | hotplug (drive : Int) (volume : String)
  | scrape (reply : GuestReply)

theorem scrapeTask_diskMap (cfg : CollectorConfig) (vs : VmState) (reply : GuestReply) :
    (scrapeTask cfg vs reply).vm.diskMap = vs.diskMap := by
  rcases scrapeTask_vm cfg vs reply with ⟨_, _, _, _, _, hvm⟩
  rw [hvm]

/-- The drive is no longer there. -/
def Machine.unplug (mach : Machine) (drive : Int) : Machine where
  vs := mach.vs
  drives := Function.update mach.drives drive none
  named := mach.named
  original i volName a hmap ha := by
    by_cases hi : i = drive
    · rw [hi, Function.update_self] at ha
      exact absurd ha (by simp only [reduceCtorEq, not_false_eq_true])
    · rw [Function.update_of_ne hi] at ha
      exact mach.original i volName a hmap ha

/-- A new drive has a number that is not in use. -/
def Machine.hotplug (mach : Machine) (drive : Int) (volume : String) : Machine where
  vs := mach.vs
  drives :=
    if (mach.drives drive).isSome then mach.drives
    else Function.update mach.drives drive (some { volume := volume, hotplugged := true })
  named := mach.named
  original i volName a hmap ha horig := by
    split at ha
    · exact mach.original i volName a hmap ha horig
    · by_cases hi : i = drive
      · rw [hi, Function.update_self, Option.some.injEq] at ha
        rw [← ha] at horig
        exact absurd horig (by simp only [reduceCtorEq, not_false_eq_true])
      · rw [Function.update_of_ne hi] at ha
        exact mach.original i volName a hmap ha horig

/-- The machine after a scrape. -/
def Machine.scraped (cfg : CollectorConfig) (mach : Machine) (reply : GuestReply) : Machine where
  vs := (scrapeTask cfg mach.vs reply).vm
  drives := mach.drives
  named := by
    rw [scrapeTask_diskMap]
    exact mach.named
  original := by
    rw [scrapeTask_diskMap]
    exact mach.original

/-- A poll scrapes a machine that is neither stopped nor closed. -/
def Machine.asked (mach : Machine) : Prop := mach.vs.stopped = false ∧ mach.vs.closed = false

instance (mach : Machine) : Decidable mach.asked := inferInstanceAs (Decidable (_ ∧ _))

/-- One event. -/
def step (cfg : CollectorConfig) (mach : Machine) : Event → Machine
  | .unplug drive => mach.unplug drive
  | .hotplug drive volume => mach.hotplug drive volume
  | .scrape reply => if mach.asked then mach.scraped cfg reply else mach

/-- The drives a scrape reports. -/
def emittedDisks (cfg : CollectorConfig) (vs : VmState) (reply : GuestReply) : List EnrichedDisk :=
  match (scrapeTask cfg vs reply).result with
  | .ok (some r) => r.disks
  | _ => []

/-- Something holds of a machine and a reply at every scrape of a run. -/
def AtScrapes (cfg : CollectorConfig) (P : Machine → GuestReply → Prop) :
    Machine → List Event → Prop
  | _, [] => True
  | mach, event :: events =>
      (∀ reply, event = .scrape reply → mach.asked → P mach reply) ∧
      AtScrapes cfg P (step cfg mach event) events

/-- A drive that came later has no labels, and a drive with a label is backed by
    the volume it names. -/
def LabelsRight (cfg : CollectorConfig) (mach : Machine) (reply : GuestReply) : Prop :=
  ∀ ed ∈ emittedDisks cfg mach.vs reply,
    (∀ i a, parseDiskIndex ed.metrics.name = some i → mach.drives i = some a →
      a.hotplugged = true → ed.disk = "" ∧ ed.pvc = "") ∧
    (ed.disk ≠ "" → ∃ i a, parseDiskIndex ed.metrics.name = some i ∧ mach.drives i = some a ∧
      a.volume = ed.disk)

/-- Every drive that has a volume in the mapping, and counters in this reading
    and the last one, was there from the start. -/
def NotReplaced (mach : Machine) (reply : GuestReply) : Prop :=
  ∀ prev counters, mach.vs.prevSnapshot = some prev → reply.counters = .ok counters →
    ∀ name m, measured prev (snapshot counters) name = some m →
      ∀ i volName, parseDiskIndex name = some i → mach.vs.diskMap i = some volName →
        ∃ a, mach.drives i = some a ∧ a.hotplugged = false

/-- The labels of the drives a loop reports. -/
theorem mem_diskLoop (fetched : Qmp.PvcMap) (prev curr : String → Option DiskCounters)
    (diskMap : Int → Option String) (names : List String) (c : Refresh.Cache Qmp.PvcMap)
    (ed : EnrichedDisk) (hed : ed ∈ (diskLoop fetched prev curr diskMap names c).1) :
    match (parseDiskIndex ed.metrics.name).bind diskMap with
    | none => ed.disk = "" ∧ ed.pvc = ""
    | some volName => ed.disk = volName := by
  induction names generalizing c with
  | nil => exact absurd hed List.not_mem_nil
  | cons name names ih =>
      cases hm : measured prev curr name with
      | none =>
          rw [diskLoop_skip fetched prev curr diskMap name names c hm] at hed
          exact ih c hed
      | some m =>
          rw [diskLoop_take fetched prev curr diskMap name names c m hm] at hed
          cases hvol : (parseDiskIndex m.name).bind diskMap with
          | none =>
              rw [hvol] at hed
              rcases List.mem_cons.mp hed with rfl | hed
              · rw [hvol]
                exact ⟨rfl, rfl⟩
              · exact ih c hed
          | some volName =>
              rw [hvol] at hed
              rcases List.mem_cons.mp hed with rfl | hed
              · rw [hvol]
              · exact ih _ hed

/-- A scrape of an open connection with a previous reading reports what the loop
    finds. -/
theorem emittedDisks_of_ok (cfg : CollectorConfig) (vs : VmState) (reply : GuestReply)
    (hopen : vs.closed = false) (prev : String → Option DiskCounters)
    (counters : List DiskCounters) (hprev : vs.prevSnapshot = some prev)
    (hcounters : reply.counters = .ok counters) :
    emittedDisks cfg vs reply
      = (diskLoop (Qmp.fetchPVCMap reply.dynClient vs.ns vs.vmi) prev (snapshot counters)
          vs.diskMap reply.order { map := vs.pvcMap, refreshed := false }).1 := by
  simp only [emittedDisks, scrapeTask, scrapeVM, hopen, hprev, hcounters, Bool.false_eq_true,
    if_false]
  generalize diskLoop _ _ _ _ _ _ = loop
  -- An empty list of disks is returned as no result at all.
  by_cases hlen : loop.1.length = 0
  · simp only [hlen, if_true]
    exact (List.eq_nil_of_length_eq_zero hlen).symm
  · simp only [hlen, if_false]

/-- Any other scrape reports nothing. -/
theorem readings_of_mem_emittedDisks (cfg : CollectorConfig) (vs : VmState) (reply : GuestReply)
    (hopen : vs.closed = false) (ed : EnrichedDisk) (hed : ed ∈ emittedDisks cfg vs reply) :
    ∃ prev counters, vs.prevSnapshot = some prev ∧ reply.counters = .ok counters := by
  cases hcounters : reply.counters with
  | error err =>
      simp only [emittedDisks, scrapeTask, scrapeVM, hopen, hcounters, Bool.false_eq_true,
        if_false, List.not_mem_nil] at hed
  | ok counters =>
      cases hprev : vs.prevSnapshot with
      | none =>
          simp only [emittedDisks, scrapeTask, scrapeVM, hopen, hprev, hcounters,
            Bool.false_eq_true, if_false, List.length_nil, if_true, List.not_mem_nil] at hed
      | some prev => exact ⟨prev, counters, rfl, rfl⟩

/-- The labels of a scrape are right exactly if no drive it measures took the
    number of another. -/
theorem labelsRight_iff (cfg : CollectorConfig) (mach : Machine) (reply : GuestReply)
    (hasked : mach.asked) : LabelsRight cfg mach reply ↔ NotReplaced mach reply := by
  constructor
  · intro hright prev counters hprev hcounters name m hm i volName hi hmap
    have hname := measured_name counters prev name m hm
    have hloop := emittedDisks_of_ok cfg mach.vs reply hasked.2 prev counters hprev hcounters
    -- The drive is among those reported, and its label is that of the mapping.
    have hmem : m ∈ (emittedDisks cfg mach.vs reply).map EnrichedDisk.metrics := by
      rw [hloop, diskLoop_metrics]
      refine List.mem_filterMap.mpr ⟨name, (reply.mem_order counters hcounters name).mpr ?_, hm⟩
      refine (snapshot_spec counters name).2.mp ?_
      unfold measured at hm
      split at hm
      · next hcurr _ => rw [hcurr, Option.isSome_some]
      · exact absurd hm (by simp only [reduceCtorEq, not_false_eq_true])
    rcases List.mem_map.mp hmem with ⟨ed, hed, rfl⟩
    have hlabel := mem_diskLoop _ _ _ _ _ _ ed (hloop ▸ hed)
    rw [hname, hi, Option.bind_some, hmap] at hlabel
    have hne : ed.disk ≠ "" := by
      rw [hlabel]
      exact mach.named i volName hmap
    rcases (hright ed hed).2 hne with ⟨i', a, hi', ha, _⟩
    rw [hname, hi, Option.some.injEq] at hi'
    rw [← hi'] at ha
    refine ⟨a, ha, Bool.eq_false_iff.mpr fun hplugged => hne ?_⟩
    exact ((hright ed hed).1 i a (by rw [hname, hi]) ha hplugged).1
  · intro hkept ed hed
    rcases readings_of_mem_emittedDisks cfg mach.vs reply hasked.2 ed hed
      with ⟨prev, counters, hprev, hcounters⟩
    rw [emittedDisks_of_ok cfg mach.vs reply hasked.2 prev counters hprev hcounters] at hed
    have hlabel := mem_diskLoop _ _ _ _ _ _ ed hed
    have hmem := List.mem_map_of_mem (f := EnrichedDisk.metrics) hed
    rw [diskLoop_metrics] at hmem
    rcases List.mem_filterMap.mp hmem with ⟨name, _, hm⟩
    have hname := measured_name counters prev name ed.metrics hm
    cases hvol : (parseDiskIndex ed.metrics.name).bind mach.vs.diskMap with
    | none =>
        -- A drive the mapping does not know has no labels.
        rw [hvol] at hlabel
        exact ⟨fun _ _ _ _ _ => hlabel, fun hne => absurd hlabel.1 hne⟩
    | some volName =>
        rw [hvol] at hlabel
        rcases Option.bind_eq_some_iff.mp hvol with ⟨i, hi, hmap⟩
        rcases hkept prev counters hprev hcounters name ed.metrics hm i volName (hname ▸ hi) hmap
          with ⟨a, ha, horig⟩
        refine ⟨fun i' a' hi' ha' hplugged => ?_, fun _ => ⟨i, a, hi, ha, ?_⟩⟩
        · rw [hi, Option.some.injEq] at hi'
          rw [← hi', ha, Option.some.injEq] at ha'
          rw [← ha', horig] at hplugged
          exact absurd hplugged (by simp only [reduceCtorEq, not_false_eq_true])
        · rw [hlabel]
          exact mach.original i volName a hmap ha horig

/-- In a run of scrapes with drives that are plugged in and out, all labels are
    right exactly if no scrape measures a drive that took the number of one the
    mapping knows. -/
theorem labels_right_iff (cfg : CollectorConfig) (mach : Machine) (events : List Event) :
    AtScrapes cfg (LabelsRight cfg) mach events ↔ AtScrapes cfg NotReplaced mach events := by
  induction events generalizing mach with
  | nil => exact Iff.rfl
  | cons event events ih =>
      refine and_congr ?_ (ih (step cfg mach event))
      refine forall_congr' fun reply => imp_congr_right fun _ => ?_
      exact forall_congr' fun hasked => labelsRight_iff cfg mach reply hasked

/-- What connecting to a machine leads to: the mapping of a truthful guest,
    together with the volumes of the drives the guest has. -/
def Machine.discovered (vs : VmState) (dom : Qmp.XmlDomain) (guestDisks : List GuestDisk)
    (hindex : (guestDisks.map GuestDisk.driveIndex).Nodup) (hcons : Consistent dom guestDisks)
    (volumes : Int → Option String)
    (hvolumes : ∀ gd ∈ guestDisks, ∀ d ∈ dom.disks, ∀ volName, Qmp.Eligible d volName →
      Matches dom gd d → ∀ volume, volumes gd.driveIndex = some volume → volume = volName) :
    Machine where
  vs := { vs with diskMap := mapping dom guestDisks }
  drives i := (volumes i).map fun volume => { volume := volume, hotplugged := false }
  named i volName hmap := by
    rcases (mapping_eq_some_iff dom guestDisks hindex hcons i volName).mp hmap
      with ⟨_, _, _, _, _, helig, _⟩
    exact helig.2.2
  original i volName a hmap ha _ := by
    rcases (mapping_eq_some_iff dom guestDisks hindex hcons i volName).mp hmap
      with ⟨gd, hgd, rfl, d, hd, helig, hmatch⟩
    rcases Option.map_eq_some_iff.mp ha with ⟨volume, hvolume, rfl⟩
    exact hvolumes gd hgd d hd volName helig hmatch volume hvolume

/-- A machine with one volume, as drive zero. -/
def oneVolume : Machine :=
  Machine.discovered newVm ⟨[sataVolume "0"], [controllerAt "sata" "0" "0x02"]⟩ [driveZero]
    (by decide) (truthful_single _ _).consistent
    (fun i => if i = 0 then some "data" else none)
    (by
      intro gd hgd d hd volName helig _ volume hvolume
      rw [List.mem_singleton.mp hgd] at hvolume
      rw [List.mem_singleton.mp hd] at helig
      have hdata : Qmp.Eligible (sataVolume "0") "data" := ⟨rfl, by decide, by decide⟩
      rw [helig.unique hdata]
      exact (Option.some.inj hvolume).symm)

/-- The volume is unplugged between two scrapes, and another one takes its
    number. -/
def replacement : List Event :=
  [.scrape (oneDisk (driveC 5 10)), .unplug 0, .hotplug 0 "scratch",
    .scrape (oneDisk (driveC 25 70))]

/-- A configuration. -/
def threeRetries : CollectorConfig := { nodeName := "node", maxRetries := 3 }

/-- The new volume is reported under the name of the old one. -/
theorem replacement_mislabelled :
    ¬ AtScrapes threeRetries (LabelsRight threeRetries) oneVolume replacement := by
  rintro ⟨_, _, _, hlast, _⟩
  have hright := hlast _ rfl (by decide +kernel)
  -- The last scrape reports the drive as the old volume.
  generalize hmach : step _ _ _ = mach at hright
  have hlabels : (emittedDisks threeRetries mach.vs (oneDisk (driveC 25 70))).map
      (fun ed => (ed.metrics.name, ed.disk)) = [("0 C:", "data")] := by
    rw [← hmach]
    decide +kernel
  have hdrive : mach.drives 0 = some { volume := "scratch", hotplugged := true } := by
    rw [← hmach]
    decide +kernel
  rcases List.map_eq_singleton_iff.mp hlabels with ⟨ed, hdisks, hed⟩
  rw [Prod.mk.injEq] at hed
  have hmem : ed ∈ emittedDisks threeRetries mach.vs (oneDisk (driveC 25 70)) := by
    rw [hdisks]
    exact List.mem_cons_self
  have hempty := ((hright ed hmem).1 0 _ (by rw [hed.1]; decide) hdrive rfl).1
  rw [hed.2] at hempty
  exact absurd hempty (by decide)

end Qga

end LatencyExporter
