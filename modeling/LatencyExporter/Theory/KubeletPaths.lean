import LatencyExporter.Core.Device.Patterns
import LatencyExporter.Lib.Paths

/-!
# Recognising Mount Points of the Kubelet

Both patterns begin with a wildcard, and the one for volumes ends with an
optional part. On paper a path could be cut in several ways, and which of them
is taken would be a question of what the wildcard, the repetitions and the
option prefer. It is not: there is one way at most. The components named in the
pattern are the last ones of the path, so the only freedom is the option. A path
that ends in `mount` could be one of a volume `mount`, or one with the option,
and it cannot be both, as the component `volumes` would have to be a UID.

The argument goes through the functions of `Resolver`, which look at the
components from the end. Each path they accept has the shape of the pattern and
conversely (`parseKubeletVolumePath_iff`), so two matches of the pattern in one
path, wherever they begin, are two results of one function. It follows that the
functions agree with the patterns on every text, also on texts with line feeds,
which a wildcard does not match: the search just begins after them.

## Main definitions

* `Component`, `HexGroup`: Parts of a path and of a UID.
* `volumePath`, `IsVolumePath`: Paths of volumes with a file system.
* `blockDevicePath`, `IsBlockDevicePath`: Paths of volumes in block mode.
* `volumeOf`: A volume by the components from the end.
* `volumeMountPoint`, `blockDeviceMountPoint`: The same paths as strings.

## Theorems

* `isPodUID_iff`, `plain_podUIDRe`: UIDs.
* `matches_kubeletVolumeRe`, `matches_kubeletBlockDeviceRe`: What the patterns match.
* `volumeOf_cons_eq_none`: The optional part is not a volume.
* `parseKubeletVolumePath_iff`, `parseKubeletBlockDevicePath_iff`: What the functions
  of a scan accept.
* `kubeletVolumeSubmatch_iff`, `kubeletBlockDeviceSubmatch_iff`: What the patterns
  give.
* `IsVolumePath.not_isBlockDevicePath`: No path is of both kinds.
* `kubelet_paths_recognised`: All of this for mount points.
-/

namespace LatencyExporter

namespace Device

open Regex Pattern Paths

/-- A component of a path. -/
def Component (s : List Char) : Prop := s ≠ [] ∧ '/' ∉ s

instance (s : List Char) : Decidable (Component s) := instDecidableAnd

/-- A group of digits in a UID. -/
def HexGroup (n : Nat) (s : List Char) : Prop := s.length = n ∧ ∀ c ∈ s, isHexDigit c = true

/-- A dash is not a digit. -/
theorem HexGroup.no_dash {n : Nat} {s : List Char} (hs : HexGroup n s) : '-' ∉ s :=
  fun hmem => absurd (hs.2 '-' hmem) (by decide)

/-- A UID has five groups of digits. -/
theorem isPodUID_iff (u : List Char) :
    isPodUID u = true ↔ ∃ a b c d e, u = path '-' a [b, c, d, e] ∧
      HexGroup 8 a ∧ HexGroup 4 b ∧ HexGroup 4 c ∧ HexGroup 4 d ∧ HexGroup 12 e := by
  rw [isPodUID, Bool.and_eq_true, decide_eq_true_iff]
  constructor
  · rintro ⟨hlen, hall⟩
    have hjoin : ['-'].intercalate (u.splitOn '-') = u := List.intercalate_splitOn '-'
    -- The lengths are given, so there are five groups.
    generalize u.splitOn '-' = groups at hlen hall hjoin
    rcases List.map_eq_cons_iff.mp hlen with ⟨a, groups, rfl, ha, hlen⟩
    rcases List.map_eq_cons_iff.mp hlen with ⟨b, groups, rfl, hb, hlen⟩
    rcases List.map_eq_cons_iff.mp hlen with ⟨c, groups, rfl, hc, hlen⟩
    rcases List.map_eq_cons_iff.mp hlen with ⟨d, groups, rfl, hd, hlen⟩
    rcases List.map_eq_cons_iff.mp hlen with ⟨e, groups, rfl, he, hlen⟩
    rw [List.map_eq_nil_iff.mp hlen] at hall hjoin
    simp only [List.all_cons, List.all_nil, Bool.and_eq_true, List.all_eq_true, and_true] at hall
    rcases hall with ⟨ha', hb', hc', hd', he'⟩
    rw [intercalate_cons] at hjoin
    exact ⟨a, b, c, d, e, hjoin.symm, ⟨ha, ha'⟩, ⟨hb, hb'⟩, ⟨hc, hc'⟩, ⟨hd, hd'⟩, ⟨he, he'⟩⟩
  · rintro ⟨a, b, c, d, e, rfl, ha, hb, hc, hd, he⟩
    have hsplit : (path '-' a [b, c, d, e]).splitOn '-' = [a, b, c, d, e] := by
      rw [splitOn_path, List.splitOn_eq_singleton ha.no_dash, List.singleton_append]
      simp only [List.forall_mem_cons]
      exact ⟨hb.no_dash, hc.no_dash, hd.no_dash, he.no_dash,
        fun s hs => absurd hs List.not_mem_nil⟩
    rw [hsplit]
    simp only [List.map_cons, List.map_nil, List.all_cons, List.all_nil, Bool.and_eq_true,
      List.all_eq_true, ha.1, hb.1, hc.1, hd.1, he.1, and_true, true_and]
    exact ⟨ha.2, hb.2, hc.2, hd.2, he.2⟩

/-- The pattern for UIDs matches UIDs and has no groups of its own. -/
theorem plain_podUIDRe : Plain podUIDRe fun u => isPodUID u = true := by
  intro text rest g
  simp only [isPodUID_iff, podUIDRe, matches_concat_lit, (Plain.rep _ _).concat_cons,
    matches_concat_nil]
  constructor
  · rintro ⟨a, _, rfl, ha, _, rfl, b, _, rfl, hb, _, rfl, c, _, rfl, hc, _, rfl, d, _, rfl, hd,
      _, rfl, e, _, rfl, he, rfl, rfl⟩
    exact ⟨⟨a, b, c, d, e, rfl, ha, hb, hc, hd, he⟩, rfl⟩
  · rintro ⟨⟨a, b, c, d, e, rfl, ha, hb, hc, hd, he⟩, rfl⟩
    exact ⟨a, _, rfl, ha, _, rfl, b, _, rfl, hb, _, rfl, c, _, rfl, hc, _, rfl, d, _, rfl, hd,
      _, rfl, e, _, rfl, he, rfl, rfl⟩

/-- `.../pods/<u>/volumes/<p>/<n>`. -/
def volumePath (pre u p n : List Char) : List Char :=
  path '/' pre ["pods".toList, u, "volumes".toList, p, n]

/-- A mount point of a volume with a file system, of the pod `u` and the volume
    `n`. -/
def IsVolumePath (t u n : List Char) : Prop :=
  ∃ pre p m, isPodUID u = true ∧ Component p ∧ Component n ∧ (m = "/mount".toList ∨ m = []) ∧
    t = volumePath pre u p n ++ m

/-- What the wildcard for components matches. -/
theorem component_iff (s : List Char) :
    (s ≠ [] ∧ ∀ c ∈ s, notSlash c = true) ↔ Component s := by
  refine and_congr_right fun _ => ?_
  simp only [notSlash, decide_eq_true_iff]
  exact ⟨fun hall hmem => hall '/' hmem rfl, fun hnot c hc heq => hnot (heq ▸ hc)⟩

/-- The text of a path, with something after it, as the pattern goes through it. -/
theorem volumePath_append (pre u p n m : List Char) :
    volumePath pre u p n ++ m = pre ++ ("/pods/".toList ++ (u ++ ("/volumes/".toList ++
      (p ++ (['/'] ++ (n ++ m)))))) := by
  simp only [volumePath, path, List.flatMap_cons, List.flatMap_nil, List.append_assoc,
    List.append_nil, List.nil_append, List.cons_append]
  rfl

/-- What the pattern for volumes matches, at the end of a text. -/
theorem matches_kubeletVolumeRe (text rest : List Char) (g : List (Nat × List Char)) :
    Matches kubeletVolumeRe text rest g ↔ rest = [] ∧ ∃ pre u p n m, (∀ c ∈ pre, dot c = true) ∧
      isPodUID u = true ∧ Component p ∧ Component n ∧ (m = "/mount".toList ∨ m = []) ∧
      text = volumePath pre u p n ++ m ∧ g = [(1, u), (2, n)] := by
  simp only [kubeletVolumeRe, (Plain.many _).concat_cons, matches_concat_lit,
    plain_podUIDRe.concat_group, (Plain.plus _).concat_cons, (Plain.plus _).concat_group,
    (Plain.lit _).opt.concat_cons, matches_concat_endText, component_iff, volumePath_append]
  constructor
  · rintro ⟨pre, _, rfl, hpre, _, rfl, u, _, _, rfl, hu, rfl, _, rfl, p, _, rfl, hp, _, rfl,
      n, _, _, rfl, hn, rfl, m, _, rfl, hm, rfl, rfl, rfl⟩
    rw [List.append_nil]
    exact ⟨rfl, pre, u, p, n, m, hpre, hu, hp, hn, hm, rfl, rfl⟩
  · rintro ⟨rfl, pre, u, p, n, m, hpre, hu, hp, hn, hm, rfl, rfl⟩
    exact ⟨pre, _, rfl, hpre, _, rfl, u, _, _, rfl, hu, rfl, _, rfl, p, _, rfl, hp, _, rfl,
      n, _, _, rfl, hn, rfl, m, [], (List.append_nil m).symm, hm, rfl, rfl, rfl⟩

/-- A UID is within one component. -/
theorem slash_not_mem_podUID (u : List Char) (hu : isPodUID u = true) : '/' ∉ u := by
  rcases (isPodUID_iff u).mp hu with ⟨a, b, c, d, e, rfl, ha, hb, hc, hd, he⟩
  have hgroup : ∀ n s, HexGroup n s → '/' ∉ s := fun n s hs hmem =>
    absurd (hs.2 '/' hmem) (by decide)
  simp only [path, List.flatMap_cons, List.flatMap_nil, List.mem_append, List.mem_cons,
    List.not_mem_nil, or_false, not_or]
  exact ⟨hgroup 8 a ha, ⟨by decide, hgroup 4 b hb⟩, ⟨by decide, hgroup 4 c hc⟩,
    ⟨by decide, hgroup 4 d hd⟩, ⟨by decide, hgroup 12 e he⟩⟩

/-- The local function of `parseKubeletVolumePath`, on components from the end. -/
def volumeOf : List (List Char) → Option (String × String)
  | name :: plugin :: volumes :: uid :: pods :: _ :: _ =>
      if name ≠ [] ∧ plugin ≠ [] ∧ volumes = "volumes".toList ∧ isPodUID uid ∧
          pods = "pods".toList then
        some (String.ofList uid, String.ofList name)
      else none
  | _ => none

/-- The path is tried as it is, then without `/mount` at its end. -/
theorem parseKubeletVolumePath_eq (s : String) :
    parseKubeletVolumePath s = match volumeOf (s.toList.splitOn '/').reverse with
      | some found => some found
      | none =>
          if (s.toList.splitOn '/').reverse.head? = some "mount".toList then
            volumeOf (s.toList.splitOn '/').reverse.tail
          else none := rfl

/-- What the local function accepts. There has to be something before `pods`. -/
theorem volumeOf_iff (components : List (List Char)) (uid name : String) :
    volumeOf components = some (uid, name) ↔ isPodUID uid.toList = true ∧ name.toList ≠ [] ∧
      ∃ p first, p ≠ [] ∧ first ≠ [] ∧ components =
        name.toList :: p :: "volumes".toList :: uid.toList :: "pods".toList :: first := by
  constructor
  · intro h
    unfold volumeOf at h
    split at h
    · next n p volumes u pods f first =>
        split at h
        · next hcond =>
            rcases hcond with ⟨hn, hp, rfl, hu, rfl⟩
            rw [Option.some.injEq, Prod.mk.injEq] at h
            rcases h with ⟨rfl, rfl⟩
            simp only [String.toList_ofList]
            exact ⟨hu, hn, p, f :: first, hp, List.cons_ne_nil f first, rfl⟩
        · exact absurd h (by simp only [reduceCtorEq, not_false_eq_true])
    · exact absurd h (by simp only [reduceCtorEq, not_false_eq_true])
  · rintro ⟨hu, hn, p, first, hp, hfirst, rfl⟩
    cases first with
    | nil => exact absurd rfl hfirst
    | cons f first =>
        rw [volumeOf, if_pos ⟨hn, hp, rfl, hu, rfl⟩, String.ofList_toList, String.ofList_toList]

/-- If there is a volume above a component, there is none with the component: what
    would be the UID is the component `volumes`. -/
theorem volumeOf_cons_eq_none (c : List Char) (components : List (List Char))
    (hsome : (volumeOf components).isSome) : volumeOf (c :: components) = none := by
  rcases Option.isSome_iff_exists.mp hsome with ⟨⟨uid, name⟩, hvolume⟩
  rcases (volumeOf_iff _ _ _).mp hvolume with ⟨_, _, p, first, _, _, rfl⟩
  cases hcons : volumeOf (c :: name.toList :: p :: "volumes".toList :: uid.toList ::
      "pods".toList :: first) with
  | none => rfl
  | some found =>
      rcases (volumeOf_iff _ found.1 found.2).mp hcons with ⟨hu, _, _, _, _, _, heq⟩
      simp only [List.cons.injEq] at heq
      rw [← heq.2.2.2.1] at hu
      exact absurd hu (by decide)

/-- The components of a path, from the end. -/
theorem components_volumePath (pre u p n : List Char) (hu : isPodUID u = true) (hp : Component p)
    (hn : Component n) : ∃ first, first ≠ [] ∧ ((volumePath pre u p n).splitOn '/').reverse =
      n :: p :: "volumes".toList :: u :: "pods".toList :: first := by
  refine (reverse_splitOn_iff '/' _ ["pods".toList, u, "volumes".toList, p, n]).mpr
    ⟨⟨pre, rfl⟩, ?_⟩
  simp only [List.forall_mem_cons]
  exact ⟨by decide, slash_not_mem_podUID u hu, by decide, hp.2, hn.2,
    fun c hc => absurd hc List.not_mem_nil⟩

/-- A path without the optional end, by its components. -/
theorem volumeOf_splitOn_iff (t : List Char) (uid name : String) :
    volumeOf (t.splitOn '/').reverse = some (uid, name) ↔ ∃ pre p, isPodUID uid.toList = true ∧
      Component p ∧ Component name.toList ∧ t = volumePath pre uid.toList p name.toList := by
  rw [volumeOf_iff]
  constructor
  · rintro ⟨hu, hn, p, first, hp, hfirst, hcomponents⟩
    rcases (reverse_splitOn_iff '/' t ["pods".toList, uid.toList, "volumes".toList, p,
      name.toList]).mp ⟨first, hfirst, hcomponents⟩ with ⟨⟨pre, ht⟩, hsep⟩
    simp only [List.forall_mem_cons] at hsep
    exact ⟨pre, p, hu, ⟨hp, hsep.2.2.2.1⟩, ⟨hn, hsep.2.2.2.2.1⟩, ht⟩
  · rintro ⟨pre, p, hu, hp, hn, rfl⟩
    rcases components_volumePath pre uid.toList p name.toList hu hp hn with
      ⟨first, hfirst, hcomponents⟩
    exact ⟨hu, hn.1, p, first, hp.1, hfirst, hcomponents⟩

/-- The components of a path that ends in `/mount`. -/
theorem splitOn_mount (t : List Char) :
    ((t ++ "/mount".toList).splitOn '/').reverse = "mount".toList :: (t.splitOn '/').reverse := by
  have hpath : t ++ "/mount".toList = path '/' t ["mount".toList] := rfl
  rw [hpath, splitOn_path '/' t _ (by decide), List.reverse_append]
  rfl

/-- A path whose last component is `mount`, and which has others. -/
theorem exists_mount (t : List Char) (rest : List (List Char)) (hrest : rest ≠ [])
    (ht : (t.splitOn '/').reverse = "mount".toList :: rest) :
    ∃ t', t = t' ++ "/mount".toList ∧ (t'.splitOn '/').reverse = rest := by
  rcases (reverse_splitOn_iff '/' t ["mount".toList]).mp ⟨rest, hrest, ht⟩ with ⟨⟨t', hpath⟩, _⟩
  have heq : t = t' ++ "/mount".toList := hpath
  rw [heq, splitOn_mount, List.cons.injEq] at ht
  exact ⟨t', heq, ht.2⟩

/-- The function that goes by components accepts the mount points of volumes. -/
theorem parseKubeletVolumePath_iff (s uid name : String) :
    parseKubeletVolumePath s = some (uid, name) ↔
      IsVolumePath s.toList uid.toList name.toList := by
  rw [parseKubeletVolumePath_eq]
  constructor
  · intro h
    cases hvolume : volumeOf (s.toList.splitOn '/').reverse with
    | some found =>
        rw [hvolume, Option.some.injEq] at h
        rw [h] at hvolume
        rcases (volumeOf_splitOn_iff _ uid name).mp hvolume with ⟨pre, p, hu, hp, hn, ht⟩
        exact ⟨pre, p, [], hu, hp, hn, Or.inr rfl, by rw [ht, List.append_nil]⟩
    | none =>
        simp only [hvolume] at h
        split at h
        · next hhead =>
            -- The last component is left out.
            rcases List.head?_eq_some_iff.mp hhead with ⟨rest, hcomponents⟩
            rw [hcomponents, List.tail_cons] at h
            have hrest : rest ≠ [] := fun hnil => by
              rw [hnil] at h
              exact absurd h (by simp only [volumeOf, reduceCtorEq, not_false_eq_true])
            rcases exists_mount _ rest hrest hcomponents with ⟨t, ht, rfl⟩
            rcases (volumeOf_splitOn_iff t uid name).mp h with ⟨pre, p, hu, hp, hn, rfl⟩
            exact ⟨pre, p, _, hu, hp, hn, Or.inl rfl, ht⟩
        · exact absurd h (by simp only [reduceCtorEq, not_false_eq_true])
  · rintro ⟨pre, p, m, hu, hp, hn, hm, ht⟩
    have hvolume := (volumeOf_splitOn_iff _ uid name).mpr ⟨pre, p, hu, hp, hn, rfl⟩
    -- With `/mount` at the end the first attempt fails, so the second one counts.
    rcases hm with rfl | rfl
    · have hnone := volumeOf_cons_eq_none "mount".toList _ (Option.isSome_of_eq_some hvolume)
      rw [ht, splitOn_mount, hnone]
      exact hvolume
    · rw [ht, List.append_nil, hvolume]

/-- `.../volumeDevices/publish/<n>/<u>`. -/
def blockDevicePath (pre n u : List Char) : List Char :=
  path '/' pre ["volumeDevices".toList, "publish".toList, n, u]

/-- A mount point of a volume in block mode, of the pod `u` and the volume `n`. -/
def IsBlockDevicePath (t u n : List Char) : Prop :=
  ∃ pre, isPodUID u = true ∧ Component n ∧ t = blockDevicePath pre n u

/-- The text of a path as the pattern goes through it. -/
theorem blockDevicePath_eq (pre n u : List Char) :
    blockDevicePath pre n u = pre ++ ("/volumeDevices/publish/".toList ++ (n ++ (['/'] ++ u))) := by
  simp only [blockDevicePath, path, List.flatMap_cons, List.flatMap_nil, List.append_nil,
    List.nil_append, List.cons_append]
  rfl

/-- What the pattern for block devices matches. Its groups come the other way
    round. -/
theorem matches_kubeletBlockDeviceRe (text rest : List Char) (g : List (Nat × List Char)) :
    Matches kubeletBlockDeviceRe text rest g ↔ rest = [] ∧ ∃ pre u n, (∀ c ∈ pre, dot c = true) ∧
      isPodUID u = true ∧ Component n ∧ text = blockDevicePath pre n u ∧
      g = [(1, n), (2, u)] := by
  simp only [kubeletBlockDeviceRe, (Plain.many _).concat_cons, matches_concat_lit,
    plain_podUIDRe.concat_group, (Plain.plus _).concat_group, matches_concat_endText,
    component_iff, blockDevicePath_eq]
  constructor
  · rintro ⟨pre, _, rfl, hpre, _, rfl, n, _, _, rfl, hn, rfl, _, rfl, u, _, _, rfl, hu, rfl, rfl,
      rfl, rfl⟩
    rw [List.append_nil]
    exact ⟨rfl, pre, u, n, hpre, hu, hn, rfl, rfl⟩
  · rintro ⟨rfl, pre, u, n, hpre, hu, hn, rfl, rfl⟩
    exact ⟨pre, _, rfl, hpre, _, rfl, n, _, _, rfl, hn, rfl, _, rfl, u, [], _,
      (List.append_nil u).symm, hu, rfl, rfl, rfl, rfl⟩

/-- The components of a path in block mode, from the end. -/
theorem components_blockDevicePath (pre u n : List Char) (hu : isPodUID u = true)
    (hn : Component n) : ∃ first, first ≠ [] ∧ ((blockDevicePath pre n u).splitOn '/').reverse =
      u :: n :: "publish".toList :: "volumeDevices".toList :: first := by
  refine (reverse_splitOn_iff '/' _ ["volumeDevices".toList, "publish".toList, n, u]).mpr
    ⟨⟨pre, rfl⟩, ?_⟩
  simp only [List.forall_mem_cons]
  exact ⟨by decide, by decide, hn.2, slash_not_mem_podUID u hu,
    fun c hc => absurd hc List.not_mem_nil⟩

/-- The function that goes by components accepts the mount points in block mode. -/
theorem parseKubeletBlockDevicePath_iff (s uid name : String) :
    parseKubeletBlockDevicePath s = some (uid, name) ↔
      IsBlockDevicePath s.toList uid.toList name.toList := by
  unfold parseKubeletBlockDevicePath
  constructor
  · intro h
    split at h
    · next u n publish volumeDevices f first hcomponents =>
        split at h
        · next hcond =>
            rcases hcond with ⟨hn, hu, rfl, rfl⟩
            rw [Option.some.injEq, Prod.mk.injEq] at h
            rcases h with ⟨rfl, rfl⟩
            rcases (reverse_splitOn_iff '/' s.toList ["volumeDevices".toList, "publish".toList, n,
              u]).mp ⟨f :: first, List.cons_ne_nil f first, hcomponents⟩ with ⟨⟨pre, ht⟩, hsep⟩
            simp only [List.forall_mem_cons] at hsep
            simp only [String.toList_ofList]
            exact ⟨pre, hu, ⟨hn, hsep.2.2.1⟩, ht⟩
        · exact absurd h (by simp only [reduceCtorEq, not_false_eq_true])
    · exact absurd h (by simp only [reduceCtorEq, not_false_eq_true])
  · rintro ⟨pre, hu, hn, ht⟩
    rcases components_blockDevicePath pre uid.toList name.toList hu hn with
      ⟨first, hfirst, hcomponents⟩
    cases first with
    | nil => exact absurd rfl hfirst
    | cons f first =>
        rw [ht, hcomponents]
        refine (if_pos ⟨hn.1, hu, rfl, rfl⟩).trans ?_
        rw [String.ofList_toList, String.ofList_toList]

/-- Whatever comes before a mount point may have more before it. -/
theorem IsVolumePath.append {t u n : List Char} (h : IsVolumePath t u n) (pre : List Char) :
    IsVolumePath (pre ++ t) u n := by
  rcases h with ⟨pre', p, m, hu, hp, hn, hm, rfl⟩
  refine ⟨pre ++ pre', p, m, hu, hp, hn, hm, ?_⟩
  rw [volumePath_append, volumePath_append, List.append_assoc]

/-- The matches of the pattern for volumes are for the volume of the path. -/
theorem kubeletVolumeSubmatch_iff (s uid name : String) :
    kubeletVolumeSubmatch s = some (uid, name) ↔
      IsVolumePath s.toList uid.toList name.toList := by
  refine find_map_iff kubeletVolumeRe s.toList _
    (fun volume : String × String => IsVolumePath s.toList volume.1.toList volume.2.toList)
    ?_ ?_ ?_ (uid, name)
  · -- A match may begin anywhere, but it ends where the text does.
    intro pre h ht hr
    rcases (matches_kubeletVolumeRe _ _ _).mp hr with
      ⟨hrest, pre', u, p, n, m, _, hu, hp, hn, hm, htext, hg⟩
    have h₁ : h.submatch 1 = u := by rw [Hit.submatch, hg]; rfl
    have h₂ : h.submatch 2 = n := by rw [Hit.submatch, hg]; rfl
    rw [ht, hrest, List.append_nil, h₁, h₂, String.toList_ofList, String.toList_ofList]
    exact IsVolumePath.append ⟨pre', p, m, hu, hp, hn, hm, htext⟩ pre
  · -- The wildcard may as well match nothing.
    rintro ⟨uid, name⟩ ⟨pre, p, m, hu, hp, hn, hm, ht⟩
    refine ⟨pre, volumePath [] uid.toList p name.toList ++ m, [], _, ?_,
      (matches_kubeletVolumeRe _ _ _).mpr ⟨rfl, [], uid.toList, p, name.toList, m,
        fun c hc => absurd hc List.not_mem_nil, hu, hp, hn, hm, rfl, rfl⟩⟩
    rw [ht, List.append_nil, volumePath_append, volumePath_append, List.nil_append]
  · -- Two matches would be two results of the function that goes by components.
    intro x y hx hy
    exact Option.some.inj (((parseKubeletVolumePath_iff s x.1 x.2).mpr hx).symm.trans
      ((parseKubeletVolumePath_iff s y.1 y.2).mpr hy))

/-- The matches of the pattern for block devices, likewise. -/
theorem kubeletBlockDeviceSubmatch_iff (s uid name : String) :
    kubeletBlockDeviceSubmatch s = some (uid, name) ↔
      IsBlockDevicePath s.toList uid.toList name.toList := by
  refine find_map_iff kubeletBlockDeviceRe s.toList _
    (fun volume : String × String => IsBlockDevicePath s.toList volume.1.toList volume.2.toList)
    ?_ ?_ ?_ (uid, name)
  · intro pre h ht hr
    rcases (matches_kubeletBlockDeviceRe _ _ _).mp hr with
      ⟨hrest, pre', u, n, _, hu, hn, htext, hg⟩
    have h₁ : h.submatch 1 = n := by rw [Hit.submatch, hg]; rfl
    have h₂ : h.submatch 2 = u := by rw [Hit.submatch, hg]; rfl
    rw [ht, hrest, List.append_nil, h₁, h₂, String.toList_ofList, String.toList_ofList]
    refine ⟨pre ++ pre', hu, hn, ?_⟩
    rw [htext, blockDevicePath_eq, blockDevicePath_eq, List.append_assoc]
  · rintro ⟨uid, name⟩ ⟨pre, hu, hn, ht⟩
    refine ⟨pre, blockDevicePath [] name.toList uid.toList, [], _, ?_,
      (matches_kubeletBlockDeviceRe _ _ _).mpr ⟨rfl, [], uid.toList, name.toList,
        fun c hc => absurd hc List.not_mem_nil, hu, hn, rfl, rfl⟩⟩
    rw [ht, List.append_nil, blockDevicePath_eq, blockDevicePath_eq, List.nil_append]
  · intro x y hx hy
    exact Option.some.inj (((parseKubeletBlockDevicePath_iff s x.1 x.2).mpr hx).symm.trans
      ((parseKubeletBlockDevicePath_iff s y.1 y.2).mpr hy))

/-- The functions of a scan are those of the patterns. -/
theorem parseKubeletVolumePath_eq_submatch (s : String) :
    parseKubeletVolumePath s = kubeletVolumeSubmatch s :=
  Option.ext fun volume => (parseKubeletVolumePath_iff s volume.1 volume.2).trans
    (kubeletVolumeSubmatch_iff s volume.1 volume.2).symm

theorem parseKubeletBlockDevicePath_eq_submatch (s : String) :
    parseKubeletBlockDevicePath s = kubeletBlockDeviceSubmatch s :=
  Option.ext fun volume => (parseKubeletBlockDevicePath_iff s volume.1 volume.2).trans
    (kubeletBlockDeviceSubmatch_iff s volume.1 volume.2).symm

/-- The last components tell the two kinds of mount points apart. -/
theorem IsVolumePath.not_isBlockDevicePath {t u n u' n' : List Char} (h : IsVolumePath t u n) :
    ¬ IsBlockDevicePath t u' n' := by
  rintro ⟨pre', hu', hn', ht⟩
  rcases h with ⟨pre, p, m, hu, hp, hn, hm, rfl⟩
  rcases components_blockDevicePath pre' u' n' hu' hn' with ⟨first', _, hblock⟩
  rcases components_volumePath pre u p n hu hp hn with ⟨first, _, hvolume⟩
  rw [← ht] at hblock
  rcases hm with rfl | rfl
  · -- The UID would have to be the component `mount`.
    rw [splitOn_mount, List.cons.injEq] at hblock
    rw [← hblock.1] at hu'
    exact absurd hu' (by decide)
  · -- The component `volumes` would have to be `publish`.
    rw [List.append_nil, hvolume] at hblock
    simp only [List.cons.injEq] at hblock
    exact absurd hblock.2.2.1 (by decide)

/-- `<pre>/pods/<u>/volumes/<p>/<n>`. -/
def volumeMountPoint (pre u p n : String) : String :=
  pre ++ "/pods/" ++ u ++ "/volumes/" ++ p ++ "/" ++ n

/-- `<pre>/volumeDevices/publish/<n>/<u>`. -/
def blockDeviceMountPoint (pre n u : String) : String :=
  pre ++ "/volumeDevices/publish/" ++ n ++ "/" ++ u

/-- A mount point as a path. -/
theorem toList_volumeMountPoint (pre u p n : String) :
    (volumeMountPoint pre u p n).toList =
      volumePath pre.toList u.toList p.toList n.toList := by
  rw [← List.append_nil (volumePath _ _ _ _), volumePath_append]
  simp only [volumeMountPoint, String.toList_append, List.append_assoc, List.append_nil]
  rfl

theorem toList_blockDeviceMountPoint (pre n u : String) :
    (blockDeviceMountPoint pre n u).toList =
      blockDevicePath pre.toList n.toList u.toList := by
  rw [blockDevicePath_eq]
  simp only [blockDeviceMountPoint, String.toList_append, List.append_assoc]
  rfl

/-- Mount points of the kubelet are recognised by their last components, whatever
    comes before them and whatever the plugin and the volume are called. Nothing
    else is accepted, nothing is accepted as both kinds, and the functions a
    scan goes by are those of the patterns. -/
theorem kubelet_paths_recognised (pre u p n : String) (hu : isPodUID u.toList = true)
    (hp : Component p.toList) (hn : Component n.toList) :
    kubeletVolumeSubmatch (volumeMountPoint pre u p n) = some (u, n) ∧
      kubeletVolumeSubmatch (volumeMountPoint pre u p n ++ "/mount") = some (u, n) ∧
      kubeletBlockDeviceSubmatch (blockDeviceMountPoint pre n u) = some (u, n) ∧
      (∀ s uid name, kubeletVolumeSubmatch s = some (uid, name) →
        ∃ pre' plugin, isPodUID uid.toList = true ∧ Component plugin.toList ∧
          Component name.toList ∧ (s = volumeMountPoint pre' uid plugin name ∨
            s = volumeMountPoint pre' uid plugin name ++ "/mount")) ∧
      (∀ s uid name, kubeletBlockDeviceSubmatch s = some (uid, name) →
        ∃ pre', isPodUID uid.toList = true ∧ Component name.toList ∧
          s = blockDeviceMountPoint pre' name uid) ∧
      (∀ s, kubeletVolumeSubmatch s = none ∨ kubeletBlockDeviceSubmatch s = none) ∧
      ∀ s, parseKubeletVolumePath s = kubeletVolumeSubmatch s ∧
        parseKubeletBlockDevicePath s = kubeletBlockDeviceSubmatch s := by
  refine ⟨?_, ?_, ?_, ?_, ?_, ?_, fun s =>
    ⟨parseKubeletVolumePath_eq_submatch s, parseKubeletBlockDevicePath_eq_submatch s⟩⟩
  · rw [kubeletVolumeSubmatch_iff, toList_volumeMountPoint]
    exact ⟨pre.toList, p.toList, [], hu, hp, hn, Or.inr rfl, (List.append_nil _).symm⟩
  · rw [kubeletVolumeSubmatch_iff, String.toList_append, toList_volumeMountPoint]
    exact ⟨pre.toList, p.toList, _, hu, hp, hn, Or.inl rfl, rfl⟩
  · rw [kubeletBlockDeviceSubmatch_iff, toList_blockDeviceMountPoint]
    exact ⟨pre.toList, hu, hn, rfl⟩
  · intro s uid name h
    rcases (kubeletVolumeSubmatch_iff s uid name).mp h with
      ⟨pre', p', m, hu', hp', hn', hm, ht⟩
    refine ⟨String.ofList pre', String.ofList p', hu', ?_, hn', ?_⟩
    · rw [String.toList_ofList]
      exact hp'
    · rw [← String.toList_inj, ← String.toList_inj, String.toList_append,
        toList_volumeMountPoint, String.toList_ofList, String.toList_ofList, ht]
      rcases hm with rfl | rfl
      · exact Or.inr rfl
      · exact Or.inl (List.append_nil _)
  · intro s uid name h
    rcases (kubeletBlockDeviceSubmatch_iff s uid name).mp h with ⟨pre', hu', hn', ht⟩
    refine ⟨String.ofList pre', hu', hn', ?_⟩
    rw [← String.toList_inj, toList_blockDeviceMountPoint, String.toList_ofList, ht]
  · intro s
    -- A text that both patterns match would be a path of both kinds.
    cases hvolume : kubeletVolumeSubmatch s with
    | none => exact Or.inl rfl
    | some volume =>
        cases hblock : kubeletBlockDeviceSubmatch s with
        | none => exact Or.inr rfl
        | some volume' =>
            exact absurd ((kubeletBlockDeviceSubmatch_iff s volume'.1 volume'.2).mp hblock)
              ((kubeletVolumeSubmatch_iff s volume.1 volume.2).mp hvolume).not_isBlockDevicePath

/-- A plugin named `volumes` and a volume named `mount`, below a directory named
    `pods`. -/
theorem kubelet_paths_recognised_mount :
    kubeletVolumeSubmatch (volumeMountPoint "/var/lib/kubelet/pods"
      "12345678-1234-1234-1234-123456789abc" "volumes" "mount" ++ "/mount") =
        some ("12345678-1234-1234-1234-123456789abc", "mount") :=
  (kubelet_paths_recognised "/var/lib/kubelet/pods" "12345678-1234-1234-1234-123456789abc"
    "volumes" "mount" (by decide) (by decide) (by decide)).2.1

end Device

end LatencyExporter
