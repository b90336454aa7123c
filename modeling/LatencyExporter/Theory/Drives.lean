import LatencyExporter.Theory.GuestAgent
import LatencyExporter.Theory.Hotplug
import LatencyExporter.Theory.Text

/-!
# From Drives to Labels

The label of a guest metric is the volume a drive of the guest is. Three texts
have to agree for it to be right. The guest lists its drives with their numbers
and places, once, as JSON; libvirt says which volume is at which place; and the
counters of every scrape name a drive by its number and its letters.

`drives_labelled` goes from the first text to the last. What is assumed of the
guest is that its list is a text of its drives, among entries that are no
drives, and that the numbers in the names of the counters are those of the
drives.

## Main definitions

* `Drive`, `Listed`: The drives of a guest, and what it lists.
* `EncodesPci`, `EncodesAddress`, `EncodesEntry`: Values that describe them.
* `Lists`: An agent that lists its drives.
* `NamesDrive`: The names of a drive in the counters.

## Theorems

* `parsePhysicalDriveIndex_path`, `parseDiskIndex_of_names`: Numbers in names.
* `pointer_pci`, `record_address`, `record_entry`: Entries are read back.
* `connectDiskMap_lists`: The map of a connection.
* `disk_of_mem_emittedDisks`: The label of a disk.
* `drives_labelled`: From the list to the labels.
-/

namespace LatencyExporter

namespace Qga

open Json (Describes Optional Independent EncodesList Written record field pointer)
open Qmp (EncodesInt XmlDomain Eligible)

section Names

/-- The last occurrence does not depend on what comes before it. -/
theorem afterLast_append {pattern rest digits : List Char}
    (h : afterLast pattern rest = some digits) (path : List Char) :
    afterLast pattern (path ++ rest) = some digits := by
  induction path with
  | nil => exact h
  | cons c path ih => rw [List.cons_append, afterLast, ih]

/-- A pattern is found only where its first character is. -/
theorem afterLast_eq_none {c : Char} {pattern cs : List Char} (h : c ∉ cs) :
    afterLast (c :: pattern) cs = none := by
  induction cs with
  | nil => rfl
  | cons c' cs ih =>
      rw [List.mem_cons, not_or] at h
      rw [afterLast, ih h.2]
      exact if_neg fun heq => h.1 (eq_of_beq heq).symm

/-- The digits of a number are digits. -/
theorem notMem_toDigits {c : Char} (hc : c.isDigit = false) (n : Nat) :
    c ∉ Nat.toDigits 10 n := by
  intro hmem
  rw [isDigit_of_mem_toDigits n c hmem] at hc
  exact absurd hc (by simp only [reduceCtorEq, not_false_eq_true])

/-- A number that is not too large is read back. -/
theorem atoi_toDigits {n : Nat} (hn : n < 2 ^ 63) : atoi (Nat.toDigits 10 n) = some (n : Int) := by
  have hrepr : (n : Int).repr.toList = Nat.toDigits 10 n := Nat.toList_repr
  rw [← hrepr]
  refine atoi_repr n ⟨?_, ?_⟩ <;> omega

/-- The number of a drive, after whatever comes before its name. -/
theorem parsePhysicalDriveIndex_path (path : List Char) {n : Nat} (hn : n < 2 ^ 63) :
    parsePhysicalDriveIndex (path ++ ("PhysicalDrive".toList ++ Nat.toDigits 10 n)) =
      some (n : Int) := by
  -- The pattern does not occur again: its first letter does not.
  have hrest : 'P' ∉ "hysicalDrive".toList ++ Nat.toDigits 10 n := by
    rw [List.mem_append, not_or]
    exact ⟨by decide, notMem_toDigits rfl n⟩
  have hlast : afterLast "PhysicalDrive".toList ("PhysicalDrive".toList ++ Nat.toDigits 10 n) =
      some (Nat.toDigits 10 n) := by
    show afterLast "PhysicalDrive".toList ('P' :: ("hysicalDrive".toList ++ Nat.toDigits 10 n)) = _
    rw [afterLast, show "PhysicalDrive".toList = 'P' :: "hysicalDrive".toList from rfl,
      afterLast_eq_none hrest]
    exact List.dropPrefix?_append_of_beq (Nat.toDigits 10 n)
      (BEq.rfl (a := 'P' :: "hysicalDrive".toList))
  rw [parsePhysicalDriveIndex, afterLast_append hlast, Option.bind_some, atoi_toDigits hn]

/-- A name of a drive in the counters: its number, and a space and its letters if
    it has some. -/
def NamesDrive (n : Nat) (name : String) : Prop :=
  ∃ t, name.toList = Nat.toDigits 10 n ++ t ∧ (t = [] ∨ ∃ letters, t = ' ' :: letters)

/-- Space at the end is cut off, but no more than that. -/
theorem rdropWhile_append {p : Char → Bool} {w : List Char} (hw : ∀ c ∈ w, p c = false)
    (t : List Char) : ∃ u, (w ++ t).rdropWhile p = w ++ u ∧ u <+: t := by
  induction t using List.reverseRecOn with
  | nil =>
      refine ⟨[], ?_, List.prefix_rfl⟩
      rw [List.append_nil, List.rdropWhile_eq_self_iff]
      intro hne
      rw [hw _ (List.getLast_mem hne)]
      exact Bool.false_ne_true
  | append_singleton t c ih =>
      obtain ⟨u, hu, hprefix⟩ := ih
      -- The last character is space and goes, or nothing does.
      by_cases hc : p c = true
      · refine ⟨u, ?_, hprefix.trans (List.prefix_append t [c])⟩
        rw [← List.append_assoc, List.rdropWhile_concat_pos _ _ _ hc, hu]
      · refine ⟨t ++ [c], ?_, List.prefix_rfl⟩
        rw [← List.append_assoc, List.rdropWhile_concat_neg _ _ _ hc]

/-- Without the separator the text is one part. -/
theorem splitN2_of_notMem {sep : Char} {s : List Char} (hs : sep ∉ s) : splitN2 sep s = [s] := by
  have hall : ∀ c ∈ s, decide (c ≠ sep) = true := fun c hc =>
    decide_eq_true fun heq => hs (heq ▸ hc)
  have hspan : s.span (· ≠ sep) = (s, []) := by
    rw [List.span_eq_takeWhile_dropWhile, List.takeWhile_eq_self_iff.mpr hall,
      List.dropWhile_eq_nil_iff.mpr hall]
  rw [splitN2, hspan]

/-- The number of a drive is read off its name, with letters and without. -/
theorem parseDiskIndex_of_names {n : Nat} (hn : n < 2 ^ 63) {name : String}
    (hname : NamesDrive n name) : parseDiskIndex name = some (n : Int) := by
  obtain ⟨t, hname, ht⟩ := hname
  have hword := word_toDigits n
  have hspace : ' ' ∉ Nat.toDigits 10 n := notMem_toDigits rfl n
  -- The name begins with a digit, so nothing is cut off before it.
  have hhead : (Nat.toDigits 10 n ++ t).dropWhile isSpace = Nat.toDigits 10 n ++ t := by
    rcases hdigits : Nat.toDigits 10 n with _ | ⟨c, cs⟩
    · exact absurd hdigits hword.1
    · have hc : isSpace c = false := hword.2 c (hdigits ▸ List.mem_cons_self)
      rw [List.cons_append, List.dropWhile_cons_of_neg]
      rw [hc]
      exact Bool.false_ne_true
  obtain ⟨u, hu, hprefix⟩ := rdropWhile_append hword.2 t
  have htrim : trimSpace name.toList = Nat.toDigits 10 n ++ u := by
    rw [hname, ← hu]
    exact congrArg (List.rdropWhile isSpace) hhead
  have hsplit : splitN2 ' ' (Nat.toDigits 10 n ++ u) = [Nat.toDigits 10 n] ∨
      ∃ rest, splitN2 ' ' (Nat.toDigits 10 n ++ u) = [Nat.toDigits 10 n, rest] := by
    rcases u with _ | ⟨c, u⟩
    · left
      rw [List.append_nil, splitN2_of_notMem hspace]
    · right
      -- What is left after the digits begins as it did before it was cut.
      obtain ⟨rest, hrest⟩ := hprefix
      rcases ht with rfl | ⟨letters, rfl⟩
      · exact absurd hrest (List.cons_ne_nil _ _)
      · rw [(List.cons.inj hrest).1]
        exact ⟨u, splitN2_append ' ' _ u hspace⟩
  -- The first part is the number, whether or not there is a second one.
  rw [parseDiskIndex, htrim]
  rcases hsplit with hsplit | ⟨rest, hsplit⟩
  · rw [hsplit]
    exact atoi_toDigits hn
  · rw [hsplit]
    exact atoi_toDigits hn

end Names

section Entries

/-- A drive of a guest. -/
structure Drive where
  index : Nat
  index_lt : index < 2 ^ 63
  path : List Char
  serial : List Char
  controller : Qmp.PCIAddr
  bus : Int
  target : Int
  unit : Int

/-- The drive as the exporter knows it. -/
def Drive.disk (d : Drive) : GuestDisk :=
  { driveIndex := d.index, serial := String.ofList d.serial,
    location := { controller := d.controller, bus := d.bus, target := d.target, unit := d.unit } }

/-- The drive as the guest lists it. -/
def Drive.entry (d : Drive) : GuestDiskEntry :=
  { name := d.path ++ ("PhysicalDrive".toList ++ Nat.toDigits 10 d.index),
    address := some
      { serial := d.serial, pciController := some d.controller, bus := d.bus, target := d.target,
        unit := d.unit } }

/-- What a guest lists: drives, and what is no drive. -/
inductive Listed where
  | drive (d : Drive)
  | other (e : GuestDiskEntry) (h : guestDisk e = none)

/-- The entry of the list. -/
def Listed.entry : Listed → GuestDiskEntry
  | .drive d => d.entry
  | .other e _ => e

/-- The drive, if it is one. -/
def Listed.toDrive : Listed → Option Drive
  | .drive d => some d
  | .other _ _ => none

/-- An entry of a drive is taken, any other is left out. -/
theorem guestDisk_entry (item : Listed) : guestDisk item.entry = item.toDrive.map Drive.disk := by
  cases item with
  | drive d =>
      simp only [Listed.entry, Drive.entry, guestDisk,
        parsePhysicalDriveIndex_path d.path d.index_lt, Listed.toDrive, Option.map_some, Drive.disk]
  | other e h => exact h

/-- The drives are taken in the order of the list. -/
theorem filterMap_entries (items : List Listed) :
    (items.map Listed.entry).filterMap guestDisk =
      (items.filterMap Listed.toDrive).map Drive.disk := by
  rw [List.filterMap_map, List.map_filterMap]
  exact congrArg (fun f => items.filterMap f) (funext guestDisk_entry)

/-- A `guestPCIController`. -/
def EncodesPci (a : Qmp.PCIAddr) (v : Json.Value) : Prop :=
  ∃ domain bus slot function, EncodesInt a.domain domain ∧ EncodesInt a.bus bus ∧
    EncodesInt a.slot slot ∧ EncodesInt a.function function ∧
    Describes pciControllerFields
      [("domain".toList, domain), ("bus".toList, bus), ("slot".toList, slot),
        ("function".toList, function)] v

/-- A `guestDiskAddress`. A missing serial number is an empty one. -/
def EncodesAddress (a : GuestDiskAddress) (v : Json.Value) : Prop :=
  ∃ busType number serial pci bus target unit, number.getD [] = a.serial ∧
    Optional "serial" (fun s v => v = .str s) number serial ∧
    Optional "pci-controller" EncodesPci a.pciController pci ∧ EncodesInt a.bus bus ∧
    EncodesInt a.target target ∧ EncodesInt a.unit unit ∧
    Describes diskAddressFields
      (("bus-type".toList, .str busType) :: (serial ++ (pci ++
        [("bus".toList, bus), ("target".toList, target), ("unit".toList, unit)]))) v

/-- A `guestDiskEntry`. -/
def EncodesEntry (e : GuestDiskEntry) (v : Json.Value) : Prop :=
  ∃ address, Optional "address" EncodesAddress e.address address ∧
    Describes diskEntryFields (("name".toList, .str e.name) :: (address ++ [])) v

/-- An agent that lists drives. -/
def Lists {σ : Type} (agent : Qmp.Agent σ) (s : σ) (items : List Listed) : Prop :=
  ∃ cs rest v rv, (agent getDisksText s).1 = .ok (cs :: rest) ∧ Written v cs ∧
    Describes getDisksFields [("return".toList, rv)] v ∧
    EncodesList EncodesEntry (items.map Listed.entry) rv

/-- The fields of a controller do not overwrite each other. -/
theorem independent_pci : Independent pciControllerFields := by
  simp only [pciControllerFields, Json.independent_cons, Json.independent_nil, List.forall_mem_cons,
    List.not_mem_nil, false_imp_iff, implies_true, and_true]
  repeat' apply And.intro
  all_goals exact Json.commute_field (fun _ _ => rfl) (fun _ _ => rfl) fun _ _ _ => rfl

/-- Nor do those of an address. -/
theorem independent_address : Independent diskAddressFields := by
  simp only [diskAddressFields, Json.independent_cons, Json.independent_nil, List.forall_mem_cons,
    List.not_mem_nil, false_imp_iff, implies_true, and_true]
  repeat' apply And.intro
  all_goals exact Json.commute_field (fun _ _ => rfl) (fun _ _ => rfl) fun _ _ _ => rfl

/-- Nor do those of an entry. -/
theorem independent_entry : Independent diskEntryFields := by
  refine List.pairwise_pair.mpr ?_
  exact Json.commute_field (fun _ _ => rfl) (fun _ _ => rfl) fun _ _ _ => rfl

/-- A controller is read, whatever was there before. -/
theorem pointer_pci (old : Option Qmp.PCIAddr) (a : Qmp.PCIAddr) (v : Json.Value)
    (henc : EncodesPci a v) :
    pointer (record pciControllerFields) ⟨0, 0, 0, 0⟩ old v = some (some a) := by
  obtain ⟨domain, bus, slot, function, hdomain, hbus, hslot, hfunction, hv⟩ := henc
  have hread : record pciControllerFields (old.getD ⟨0, 0, 0, 0⟩) v = some a :=
    Json.record_of_fills independent_pci hv
      (.cons rfl (Json.field_some (Qmp.int_encodes _ _ hdomain _))
        (.cons rfl (Json.field_some (Qmp.int_encodes _ _ hbus _))
          (.cons rfl (Json.field_some (Qmp.int_encodes _ _ hslot _))
            (.cons rfl (Json.field_some (Qmp.int_encodes _ _ hfunction _)) (.nil _)))))
  rw [Json.pointer_describes hv, hread, Option.map_some]

/-- A string is read as it is. -/
theorem text_encodes (old s : List Char) (v : Json.Value) (henc : v = .str s) :
    Json.text old v = some s := by
  rw [henc, Json.text]

/-- An address is read, with a serial number and a controller if it has them. -/
theorem record_address {a : GuestDiskAddress} {v : Json.Value} (henc : EncodesAddress a v) :
    record diskAddressFields ⟨[], none, 0, 0, 0⟩ v = some a := by
  obtain ⟨busType, number, serial, pci, bus, target, unit, hnumber, hserial, hpci, hbus, htarget,
    hunit, hv⟩ := henc
  refine Json.record_of_fills independent_address hv ?_
  refine .cons rfl (Json.field_some (text_encodes _ busType _ rfl)) ?_
  refine .default hserial rfl (text_encodes _) rfl ((elim_id _ _).trans hnumber) ?_
  refine .optional hpci rfl (pointer_pci _) rfl ?_
  exact .cons rfl (Json.field_some (Qmp.int_encodes _ _ hbus _))
    (.cons rfl (Json.field_some (Qmp.int_encodes _ _ htarget _))
      (.cons rfl (Json.field_some (Qmp.int_encodes _ _ hunit _)) (.nil _)))

/-- An entry is read, with its address if it has one. -/
theorem record_entry {e : GuestDiskEntry} {v : Json.Value} (henc : EncodesEntry e v) :
    record diskEntryFields ⟨[], none⟩ v = some e := by
  obtain ⟨address, haddress, hv⟩ := henc
  have hpointer : ∀ a v, EncodesAddress a v →
      pointer (record diskAddressFields) ⟨[], none, 0, 0, 0⟩ none v = some (some a) := by
    intro a v ha
    have hread := record_address ha
    obtain ⟨_, _, _, _, _, _, _, _, _, _, _, _, _, hv⟩ := ha
    rw [Json.pointer_describes hv, Option.getD_none, hread, Option.map_some]
  refine Json.record_of_fills independent_entry hv ?_
  refine .cons rfl (Json.field_some (text_encodes _ e.name _ rfl)) ?_
  exact .optional haddress rfl hpointer rfl (.nil _)

end Entries

section Labels

variable {σ : Type} {g : GoTexts} {agent : Qmp.Agent σ} {s : σ} {items : List Listed}

/-- The map of a connection is that of the drives the guest lists. -/
theorem connectDiskMap_lists (h : Lists agent s items) (dom : XmlDomain) :
    (connectDiskMap g agent ⟨false⟩ (.ok (.ok dom)) s).1 =
      mapping dom ((items.filterMap Listed.toDrive).map Drive.disk) := by
  obtain ⟨cs, rest, v, rv, ha, hcs, hv, hrv⟩ := h
  have hread : Json.unmarshal (record getDisksFields) [] cs = some (items.map Listed.entry) := by
    rw [Json.unmarshal_written hcs]
    exact Json.record_of_fills (List.pairwise_singleton _ _) hv
      (.cons rfl (Json.field_some (Json.slice_encodes (fun _ _ => record_entry) hrv _)) (.nil _))
  -- What is no drive is skipped.
  have hdisks : guestGetDisks g agent ⟨false⟩ s =
      (.ok ((items.filterMap Listed.toDrive).map Drive.disk), (agent getDisksText s).2) := by
    rw [guestGetDisks, agentCommand_ok ha]
    simp only [parseGuestGetDisks, hread, filterMap_entries]
  rw [connectDiskMap, hdisks]
  simp only [buildDiskMapping_eq]

/-- The label of a disk is the volume of the drive whose number its name has. -/
theorem disk_of_mem_emittedDisks {cfg : CollectorConfig} {vs : VmState} {reply : GuestReply}
    {ed : EnrichedDisk} (hed : ed ∈ emittedDisks cfg vs reply) :
    ed.disk = ((parseDiskIndex ed.metrics.name).bind vs.diskMap).getD "" := by
  -- A closed connection emits nothing.
  have hopen : vs.closed = false := by
    refine Bool.eq_false_iff.mpr fun hclosed => ?_
    simp only [emittedDisks, scrapeTask, scrapeVM, hclosed, if_true] at hed
    exact absurd hed List.not_mem_nil
  obtain ⟨prev, counters, hprev, hcounters⟩ :=
    readings_of_mem_emittedDisks cfg vs reply hopen ed hed
  rw [emittedDisks_of_ok cfg vs reply hopen prev counters hprev hcounters] at hed
  have hlabel := mem_diskLoop _ _ _ _ _ _ ed hed
  cases hvol : (parseDiskIndex ed.metrics.name).bind vs.diskMap with
  | none =>
      rw [hvol] at hlabel
      exact hlabel.1
  | some volName =>
      rw [hvol] at hlabel
      exact hlabel

/-- The label of a disk in the metrics of a guest is the volume of the disk that
    is at its place, or has its serial number. -/
theorem drives_labelled (h : Lists agent s items) (dom : XmlDomain)
    (hindex : ((items.filterMap Listed.toDrive).map Drive.index).Nodup)
    (hcons : Consistent dom ((items.filterMap Listed.toDrive).map Drive.disk)) {vs : VmState}
    (hmap : vs.diskMap = (connectDiskMap g agent ⟨false⟩ (.ok (.ok dom)) s).1)
    {cfg : CollectorConfig} {reply : GuestReply} {ed : EnrichedDisk}
    (hed : ed ∈ emittedDisks cfg vs reply) {d : Drive} (hd : .drive d ∈ items)
    (hname : NamesDrive d.index ed.metrics.name) {volName : String} (hne : volName ≠ "") :
    ed.disk = volName ↔ ∃ disk ∈ dom.disks, Eligible disk volName ∧ Matches dom d.disk disk := by
  have hmem : d ∈ items.filterMap Listed.toDrive := List.mem_filterMap.mpr ⟨_, hd, rfl⟩
  have hdisks : (((items.filterMap Listed.toDrive).map Drive.disk).map
      GuestDisk.driveIndex).Nodup := by
    have hints := List.Nodup.map Int.ofNat_injective hindex
    rw [List.map_map] at hints ⊢
    exact hints
  have hlookup := mapping_eq_some_iff dom _ hdisks hcons d.index volName
  rw [disk_of_mem_emittedDisks hed, parseDiskIndex_of_names d.index_lt hname, Option.bind_some,
    hmap, connectDiskMap_lists h]
  constructor
  · intro hlabel
    cases hfound : mapping dom ((items.filterMap Listed.toDrive).map Drive.disk) d.index with
    | none =>
        rw [hfound] at hlabel
        exact absurd hlabel.symm hne
    | some vol =>
        rw [hfound, Option.getD_some] at hlabel
        rw [hlabel] at hfound
        obtain ⟨gd, hgd, hsame, hdisk⟩ := hlookup.mp hfound
        -- The numbers of the drives are different, so it is this one.
        have hgd' := List.inj_on_of_nodup_map hdisks hgd (List.mem_map_of_mem hmem) hsame
        exact hgd' ▸ hdisk
  · intro hdisk
    rw [hlookup.mpr ⟨d.disk, List.mem_map_of_mem hmem, rfl, hdisk⟩, Option.getD_some]

end Labels

section Sample

/-- A drive on the controller in slot two. -/
def sampleDrive : Drive :=
  { index := 0, index_lt := by omega, path := "\\\\.\\".toList, serial := [],
    controller := ⟨0, 0, 2, 0⟩, bus := 0, target := 0, unit := 0 }

/-- An entry without a place. -/
def sampleVolume : GuestDiskEntry := { name := "C:".toList, address := none }

/-- What the guest lists. -/
def sampleItems : List Listed := [.other sampleVolume rfl, .drive sampleDrive]

/-- The controller of the drive as a value. -/
def sampleController : Json.Value :=
  .obj [("domain".toList, .num (Qmp.intNumber 0)), ("bus".toList, .num (Qmp.intNumber 0)),
    ("slot".toList, .num (Qmp.intNumber 2)), ("function".toList, .num (Qmp.intNumber 0))]

/-- The place of the drive as a value. -/
def sampleAddress : Json.Value :=
  .obj [("bus-type".toList, .str "sata".toList), ("pci-controller".toList, sampleController),
    ("bus".toList, .num (Qmp.intNumber 0)), ("target".toList, .num (Qmp.intNumber 0)),
    ("unit".toList, .num (Qmp.intNumber 0))]

/-- The list as a value. -/
def sampleList : Json.Value :=
  .arr [.obj [("name".toList, .str sampleVolume.name)],
    .obj [("name".toList, .str sampleDrive.entry.name), ("address".toList, sampleAddress)]]

/-- An agent that answers with the list. -/
def listingAgent : Qmp.Agent Unit := fun _ s => (returning sampleList, s)

/-- A small number is an integer of the source. -/
theorem encodesInt_small {z : Int} (hlow : 0 ≤ z) (hhigh : z < 16) :
    EncodesInt z (.num (Qmp.intNumber z)) := ⟨⟨by omega, by omega⟩, rfl⟩

/-- The agent lists what is no drive, and the drive. -/
theorem lists_listingAgent : Lists listingAgent () sampleItems := by
  have hsmall : EncodesInt 0 (.num (Qmp.intNumber 0)) := encodesInt_small (by omega) (by omega)
  have hslot : EncodesInt 2 (.num (Qmp.intNumber 2)) := encodesInt_small (by omega) (by omega)
  have hcontroller : EncodesPci ⟨0, 0, 2, 0⟩ sampleController :=
    ⟨_, _, _, _, hsmall, hsmall, hslot, hsmall, describes_self _ (by decide)⟩
  have haddress : EncodesAddress
      { serial := [], pciController := some ⟨0, 0, 2, 0⟩, bus := 0, target := 0, unit := 0 }
      sampleAddress :=
    ⟨_, none, [], _, _, _, _, rfl, rfl, ⟨_, hcontroller, rfl⟩, hsmall, hsmall, hsmall,
      describes_self _ (by decide)⟩
  refine ⟨_, [], _, sampleList, rfl, Json.written_marshal (by decide), describes_self _ (by decide),
    _, rfl, ?_⟩
  refine .cons ⟨[], rfl, describes_self _ (by decide)⟩ (.cons ⟨_, ⟨_, haddress, rfl⟩, ?_⟩ .nil)
  exact describes_self _ (by decide)

/-- A domain with a volume where the drive is. -/
def sampleDomain : XmlDomain := ⟨[sataVolume "0"], [controllerAt "sata" "0" "0x02"]⟩

/-- The machine after its first scrape. -/
def listingVm : VmState :=
  { newVm with
    prevSnapshot := some (snapshot [driveC 5 10]),
    diskMap := (connectDiskMap sampleTexts listingAgent ⟨false⟩ (.ok (.ok sampleDomain)) ()).1 }

/-- The disk of the second scrape is labelled with the volume. -/
theorem drives_labelled_sata :
    ∃ ed ∈ emittedDisks threeRetries listingVm (oneDisk (driveC 25 70)), ed.disk = "data" ∧
      (ed.disk = "data" ↔ ∃ disk ∈ sampleDomain.disks, Eligible disk "data" ∧
        Matches sampleDomain sampleDrive.disk disk) := by
  have hnames : (emittedDisks threeRetries listingVm (oneDisk (driveC 25 70))).map
      (fun ed => (ed.metrics.name, ed.disk)) = [("0 C:", "data")] := by
    rw [listingVm, connectDiskMap_lists lists_listingAgent]
    decide +kernel
  obtain ⟨ed, hdisks, hboth⟩ := List.map_eq_singleton_iff.mp hnames
  have hname : ed.metrics.name = "0 C:" := congrArg Prod.fst hboth
  have hlabel : ed.disk = "data" := congrArg Prod.snd hboth
  have hed : ed ∈ emittedDisks threeRetries listingVm (oneDisk (driveC 25 70)) :=
    hdisks ▸ List.mem_cons_self
  have hdrive : NamesDrive sampleDrive.index ed.metrics.name := by
    rw [hname]
    exact ⟨" C:".toList, by decide, .inr ⟨"C:".toList, by decide⟩⟩
  have hcons : Consistent sampleDomain ((sampleItems.filterMap Listed.toDrive).map Drive.disk) :=
    (truthful_single _ _).consistent
  have hmap : listingVm.diskMap =
      (connectDiskMap sampleTexts listingAgent ⟨false⟩ (.ok (.ok sampleDomain)) ()).1 := by
    rw [listingVm]
  exact ⟨ed, hed, hlabel, drives_labelled lists_listingAgent sampleDomain (by decide) hcons hmap hed
    (List.mem_cons_of_mem _ List.mem_cons_self) hdrive (by decide)⟩

end Sample

end Qga

end LatencyExporter
