import LatencyExporter.Core.Device.Mounts
import LatencyExporter.Theory.Text

/-!
# Mount Information That Comes Back

A line of `mountinfo` has six fields, then optional fields, then a lone dash,
and three more fields. Nothing says how many optional fields there are, so the
dash is what the type and the source of a mount are found by. A lone dash may
stand for a field as well. Before the dash that separates, it does not mislead
the parser, which starts to look for the separator after the six fields; after
it, neither, since the first dash counts. Only among the optional fields it
would be taken for the separator.

`parseMountInfoLine_render` is the round trip: whatever mount is printed, the
parser returns it. The fields are words, as the kernel escapes white space in
them. Of the optional fields only this is asked, that there is no lone dash
among their words. In particular an optional field may be any word but a dash.

## Main definitions

* `MountLine`: What is printed on a line.
* `MountLine.render`, `MountLine.entry`: The line, and what it says about a mount.

## Theorems

* `MountLine.fields_render`: The words of a line.
* `MountLine.dropWhile_separator`: Where the separator is.
* `parseMountInfoLine_render`: Parsing what was printed.
-/

namespace LatencyExporter

namespace Device

/-- What is printed on a line of `mountinfo`. -/
structure MountLine where
  mountID : Int
  parentID : Int
  major : UInt32
  minor : UInt32
  root : List Char
  mountPoint : List Char
  options : List Char
  optional : List (List Char)
  fsType : List Char
  source : List Char
  superOptions : List Char
  fits : FitsInt mountID ∧ FitsInt parentID
  words : ∀ s ∈ [root, mountPoint, options, fsType, source, superOptions], Word s
  no_dash : ∀ s ∈ optional, ['-'] ∉ fields s

namespace MountLine

/-- The device number of a line. -/
def device (l : MountLine) : List Char :=
  Nat.toDigits 10 l.major.toNat ++ ':' :: Nat.toDigits 10 l.minor.toNat

/-- The fields up to the optional ones. -/
def front (l : MountLine) : List (List Char) :=
  [l.mountID.repr.toList, l.parentID.repr.toList, l.device, l.root, l.mountPoint, l.options]

/-- The separator and the fields after it. -/
def back (l : MountLine) : List (List Char) := [['-'], l.fsType, l.source, l.superOptions]

/-- The line, its fields with a space between them. -/
def render (l : MountLine) : List Char := [' '].intercalate (l.front ++ (l.optional ++ l.back))

/-- What a line says about a mount. -/
def entry (l : MountLine) : MountEntry :=
  { mountID := l.mountID, parentID := l.parentID, major := l.major, minor := l.minor,
    root := String.ofList l.root, mountPoint := String.ofList l.mountPoint,
    fsType := String.ofList l.fsType, source := String.ofList l.source }

theorem front_words (l : MountLine) : ∀ s ∈ l.front, Word s := by
  have hdevice : Word l.device := (word_toDigits _).append_cons (by decide) (word_toDigits _)
  have hwords := l.words
  simp only [List.forall_mem_cons] at hwords
  rcases hwords with ⟨hroot, hmountPoint, hoptions, _⟩
  simp only [front, List.forall_mem_cons]
  exact ⟨word_repr _, word_repr _, hdevice, hroot, hmountPoint, hoptions,
    fun s hs => absurd hs List.not_mem_nil⟩

theorem back_words (l : MountLine) : ∀ s ∈ l.back, Word s := by
  have hdash : Word ['-'] := by
    refine ⟨List.cons_ne_nil _ _, fun c hc => ?_⟩
    rw [List.mem_singleton.mp hc]
    decide
  have hwords := l.words
  simp only [List.forall_mem_cons] at hwords
  rcases hwords with ⟨_, _, _, hfsType, hsource, hsuper, hnil⟩
  simp only [back, List.forall_mem_cons]
  exact ⟨hdash, hfsType, hsource, hsuper, hnil⟩

theorem fields_render (l : MountLine) :
    fields l.render = l.front ++ (l.optional.flatMap fields ++ l.back) := by
  rw [render, fields_intercalate, List.flatMap_append, List.flatMap_append,
    flatMap_fields_words l.front l.front_words, flatMap_fields_words l.back l.back_words]

/-- The first lone dash after six fields is the separator. -/
theorem dropWhile_separator (l : MountLine) :
    (l.optional.flatMap fields ++ l.back).dropWhile (· ≠ ['-']) = l.back := by
  -- No optional field has a lone dash in it.
  have hbefore : ∀ s ∈ l.optional.flatMap fields, decide (s ≠ ['-']) = true := by
    intro s hs
    rcases List.mem_flatMap.mp hs with ⟨t, ht, hst⟩
    exact decide_eq_true fun heq => l.no_dash t ht (heq ▸ hst)
  rw [List.dropWhile_append_of_pos hbefore, back, List.dropWhile_cons_of_neg (by simp)]

end MountLine

/-- Parsing a line gives the mount that was printed on it. -/
theorem parseMountInfoLine_render (l : MountLine) :
    parseMountInfoLine l.render = .ok l.entry := by
  have hfields := l.fields_render
  have hsep := l.dropWhile_separator
  have hmajor := parseUint_toDigits 32 l.major.toNat l.major.toNat_lt
  have hminor := parseUint_toDigits 32 l.minor.toNat l.minor.toNat_lt
  -- Digits are no colons, so the device is split where it was joined.
  have hdevice : splitN2 ':' l.device =
      [Nat.toDigits 10 l.major.toNat, Nat.toDigits 10 l.minor.toNat] := by
    refine splitN2_append ':' _ _ fun hmem => ?_
    exact absurd (isDigit_of_mem_toDigits _ _ hmem) (by decide)
  -- The seventh field is an optional one or the separator.
  generalize l.optional.flatMap fields ++ l.back = rest at hfields hsep
  cases rest with
  | nil => exact absurd hsep (by simp [MountLine.back])
  | cons f6 rest =>
      simp only [parseMountInfoLine, hfields, MountLine.front, List.cons_append, List.nil_append,
        atoi_repr _ l.fits.1, atoi_repr _ l.fits.2, hdevice, hmajor, hminor, hsep, MountLine.back,
        Option.elim_some]
      change Except.ok _ = _
      rw [UInt32.ofNat_toNat, UInt32.ofNat_toNat, MountLine.entry]

/-- A mount whose root, mount point, options and type are a lone dash, with two
    optional fields. -/
theorem parseMountInfoLine_render_dashes :
    ∃ l : MountLine, l.render = "36 -1 98:4294967295 - - - shared:1 x- - - none rw".toList ∧
      parseMountInfoLine l.render =
        .ok { mountID := 36, parentID := -1, major := 98, minor := 4294967295, root := "-",
              mountPoint := "-", fsType := "-", source := "none" } :=
  ⟨{ mountID := 36, parentID := -1, major := 98, minor := 4294967295, root := ['-'],
     mountPoint := ['-'], options := ['-'], optional := ["shared:1".toList, "x-".toList],
     fsType := ['-'], source := "none".toList, superOptions := "rw".toList,
     fits := by decide, words := by decide, no_dash := by decide },
    by decide, parseMountInfoLine_render _⟩

end Device

end LatencyExporter
