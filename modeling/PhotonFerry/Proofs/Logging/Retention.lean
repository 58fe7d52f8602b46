import Mathlib.Data.List.Basic
import PhotonFerry.Logging.Setup
import PhotonFerry.Proofs.Disk.Walks
/-!
# What cleaning a log folder removes

As long as the retention leads back to an instant of the calendar, the log files that
were last changed before that instant are removed, and nothing else on the disk changes.
A retention that leads further back is a fault, though it asks for nothing to be removed,
and one of at least 2^63 days is read as a number of days to come: then every log file
that was changed before the instant so many days ahead is removed.
-/

namespace PhotonFerry

open Calendar (earliest latest secondsPerDay)

/-- A log file that was last changed before an instant. -/
def LogFileBefore (instant : Int) (name : String) : DiskNode → Prop
  | .folder _ => False
  | .file _ modified => Retention.stem.toList <+: name.toList ∧ modified < instant

instance (instant : Int) (name : String) (node : DiskNode) :
    Decidable (LogFileBefore instant name node) :=
  match node with
  | .folder _ => inferInstanceAs (Decidable False)
  | .file _ modified =>
    inferInstanceAs (Decidable (Retention.stem.toList <+: name.toList ∧ modified < instant))

/-- What was changed before an instant was changed before a later one. -/
theorem LogFileBefore.mono {instant later : Int} {name : String} {node : DiskNode}
    (older : LogFileBefore instant name node) (order : instant ≤ later) :
    LogFileBefore later name node := by
  cases node with
  | folder => exact older
  | file => exact ⟨older.1, Int.lt_of_lt_of_le older.2 order⟩

/-- From the folder at a place some entries were removed, all that answer a description
and no other, and nothing changed elsewhere on the disk. -/
structure Cleans (folder : Place) (removed : String → DiskNode → Prop)
    [∀ name node, Decidable (removed name node)] (before after : Disk) : Prop where
  home : after.home = before.home
  entries : after.entries folder =
    (before.entries folder).filter fun (name, node) => ¬ removed name node
  elsewhere : ∀ place, ¬ folder <:+ place → ¬ place <:+ folder → after.at? place = before.at? place

namespace Retention

variable {now : Int} {days : Nat}

/-- Where the retention begins: the instant that lies so many days before now. -/
def begins (now : Int) (days : Nat) : Int := now - days * secondsPerDay

theorem begins_le_of_le {more : Nat} (longer : days ≤ more) :
    begins now more ≤ begins now days := by
  simp only [begins, secondsPerDay]
  omega

/-- Fewer than 2^63 days stand for themselves. -/
theorem signed_of_lt (few : days < twoTo 63) : Word.signed 64 days = days :=
  Int.bmod_eq_of_le_mul_two (by omega) (by simp only [twoTo, Nat.pow_eq] at few ⊢; omega)

/-- At least 2^63 days stand for days to come. -/
theorem signed_of_le (many : twoTo 63 ≤ days) (word : days < twoTo 64) :
    Word.signed 64 days = -((twoTo 64 - days : Nat) : Int) := by
  have large : ¬ (days : Int) % (twoTo 64 : Nat) < ((twoTo 64 : Nat) + 1) / 2 := by
    simp only [twoTo, Nat.pow_eq] at many word ⊢
    omega
  rw [Word.signed, Int.bmod_def, if_neg large]
  simp only [twoTo, Nat.pow_eq] at many word ⊢
  omega

/-- Two instants of the calendar are never too far apart. -/
theorem not_longestSpan_lt {span : Int} (present : Calendar.Holds now)
    (inside : Calendar.Holds (now - span)) : ¬ longestSpan < span.natAbs := by
  have bound : longestSpan = 9223372036854775 := by decide +kernel
  simp only [Calendar.Holds, earliest, latest] at present inside
  omega

/-- The cutoff is where the number that the days are read as leads back to, if this is in
the calendar. -/
theorem cutoff?_of_present (present : Calendar.Holds now) :
    cutoff? now days =
      if Calendar.Holds (now - Word.signed 64 days * secondsPerDay) then
        some (now - Word.signed 64 days * secondsPerDay)
      else none := by
  rw [cutoff?]
  by_cases inside : Calendar.Holds (now - Word.signed 64 days * secondsPerDay)
  · rw [if_neg (not_longestSpan_lt present inside), if_pos inside]
  · rw [if_neg inside]
    exact ite_self none

/-- A retention that begins in the calendar counts fewer than 2^63 days. -/
theorem lt_of_begins (present : Calendar.Holds now) (begun : earliest ≤ begins now days) :
    days < twoTo 63 := by
  simp only [Calendar.Holds, begins, earliest, latest, secondsPerDay, twoTo, Nat.pow_eq] at *
  omega

/-- The cutoff is where the retention begins, if this is in the calendar. -/
theorem cutoff?_of_begins (present : Calendar.Holds now) (begun : earliest ≤ begins now days) :
    cutoff? now days = some (begins now days) := by
  rw [cutoff?_of_present present, signed_of_lt (lt_of_begins present begun)]
  refine if_pos ⟨begun, Int.le_trans ?_ present.2⟩
  simp only [secondsPerDay]
  omega

/-- There is no cutoff if the retention begins before the calendar. -/
theorem cutoff?_of_lt (present : Calendar.Holds now) (few : days < twoTo 63)
    (beyond : begins now days < earliest) : cutoff? now days = none := by
  rw [cutoff?_of_present present, signed_of_lt few]
  exact if_neg fun inside => Int.not_le_of_gt beyond inside.1

/-- With at least 2^63 days the cutoff lies ahead, if it is in the calendar at all. -/
theorem cutoff?_of_le (present : Calendar.Holds now) (many : twoTo 63 ≤ days)
    (word : days < twoTo 64) :
    cutoff? now days =
      if now + (twoTo 64 - days : Nat) * secondsPerDay ≤ latest then
        some (now + (twoTo 64 - days : Nat) * secondsPerDay)
      else none := by
  rw [cutoff?_of_present present, signed_of_le many word, Int.neg_mul, Int.sub_neg]
  have later : earliest ≤ now + (twoTo 64 - days : Nat) * secondsPerDay := by
    refine Int.le_trans present.1 ?_
    simp only [secondsPerDay]
    omega
  simp only [Calendar.Holds, later, true_and]

theorem isExpired_iff {cutoff : Int} {name : String} {node : DiskNode} :
    isExpired cutoff name node = true ↔ LogFileBefore cutoff name node := by
  cases node with
  | folder entries => simp [isExpired, LogFileBefore]
  | file contents modified =>
    simp [isExpired, LogFileBefore, isLogName, String.startsWith_string_iff]

/-- Cleaning a folder removes the log files that were changed before the cutoff. -/
theorem cleans_clean {disk : Disk} {folder : Place} (cutoff : Int)
    (stands : disk.at? folder = some (.folder (disk.entries folder))) :
    Cleans folder (LogFileBefore cutoff) disk (clean folder cutoff disk) where
  home := rfl
  entries := by
    have kept : (clean folder cutoff disk).at? folder =
        some (.keep (fun name node => !isExpired cutoff name node)
          (.folder (disk.entries folder))) := by
      rw [clean, Disk.at?_modifyAt, stands, Option.map_some]
    have same : (fun entry : String × DiskNode => !isExpired cutoff entry.1 entry.2) =
        fun entry => decide (¬ LogFileBefore cutoff entry.1 entry.2) := by
      funext entry
      rw [Bool.eq_iff_iff, decide_eq_true_iff, ← isExpired_iff, Bool.not_eq_true, Bool.not_eq_true']
    rw [Disk.entries, kept]
    simp only [Option.map_some, Option.getD_some, DiskNode.keep, DiskNode.entries, same]
  elsewhere place below above := disk.at?_modifyAt_apart _ below above

end Retention

namespace Logging

open Retention (begins)

variable {disk : Disk} {path : String} {folder : Place} {now : Int} {days : Nat}

/-- Without a cutoff nothing is touched. -/
theorem removeExpired_of_none (path : String) (disk : Disk)
    (outside : Retention.cutoff? now days = none) :
    removeExpired path days now disk = ⟨.error .outOfCalendar, disk, []⟩ := by
  rw [removeExpired, outside]
  rfl

/-- With a cutoff the folder is cleaned. -/
theorem removeExpired_of_some (found : disk.folderAt path = .ok folder) {cutoff : Int}
    (reached : Retention.cutoff? now days = some cutoff) :
    removeExpired path days now disk = ⟨.ok (), Retention.clean folder cutoff disk, []⟩ := by
  rw [removeExpired, reached]
  simp only [removeBefore, Action.get_bind, found]
  rfl

/-- A cutoff decides all that happens. -/
theorem cleans_of_some (found : disk.folderAt path = .ok folder) {cutoff : Int}
    (reached : Retention.cutoff? now days = some cutoff) :
    (removeExpired path days now disk).value = .ok () ∧
      Cleans folder (LogFileBefore cutoff) disk (removeExpired path days now disk).state := by
  rw [removeExpired_of_some found reached]
  exact ⟨rfl, Retention.cleans_clean cutoff (Disk.exists_entries_of_folderAt found)⟩

/-- Fewer than 2^63 days leave a folder as it is, or clean it of what was changed before they
began. -/
theorem entries_of_lt (found : disk.folderAt path = .ok folder) (present : Calendar.Holds now)
    (few : days < twoTo 63) :
    let left := (removeExpired path days now disk).state.entries folder
    begins now days < earliest ∧ left = disk.entries folder ∨
      earliest ≤ begins now days ∧ left = (disk.entries folder).filter fun (name, node) =>
        ¬ LogFileBefore (begins now days) name node := by
  rcases Int.lt_or_le (begins now days) earliest with beyond | begun
  · rw [removeExpired_of_none path disk (Retention.cutoff?_of_lt present few beyond)]
    exact .inl ⟨beyond, rfl⟩
  · exact .inr ⟨begun,
      (cleans_of_some found (Retention.cutoff?_of_begins present begun)).2.entries⟩

/-- Longer retentions of fewer than 2^63 days leave no less. -/
theorem entries_sublist (found : disk.folderAt path = .ok folder) (present : Calendar.Holds now)
    {more : Nat} (longer : days ≤ more) (few : more < twoTo 63) :
    ((removeExpired path days now disk).state.entries folder).Sublist
      ((removeExpired path more now disk).state.entries folder) := by
  have order : begins now more ≤ begins now days := Retention.begins_le_of_le longer
  rcases entries_of_lt found present (Nat.lt_of_le_of_lt longer few) with
    ⟨beyond, left⟩ | ⟨-, left⟩ <;>
  rcases entries_of_lt found present few with ⟨-, leftMore⟩ | ⟨begun, leftMore⟩ <;>
  rw [left, leftMore]
  · exact absurd (Int.le_trans begun order) (Int.not_le_of_gt beyond)
  · exact List.filter_sublist
  · refine List.monotone_filter_right _ fun ⟨name, node⟩ kept => ?_
    simp only [decide_eq_true_eq] at kept ⊢
    exact fun older => kept (older.mono order)

/-- Beyond the calendar nothing is removed. -/
theorem removeExpired_outside (path : String) (disk : Disk) (present : Calendar.Holds now)
    (word : days < twoTo 64) (beyond : begins now days < earliest)
    (outside : days < twoTo 63 ∨ latest < now + (twoTo 64 - days : Nat) * secondsPerDay) :
    removeExpired path days now disk = ⟨.error .outOfCalendar, disk, []⟩ := by
  refine removeExpired_of_none path disk ?_
  rcases Nat.lt_or_ge days (twoTo 63) with few | many
  · exact Retention.cutoff?_of_lt present few beyond
  · rw [Retention.cutoff?_of_le present many word]
    exact if_neg (Int.not_le_of_gt (outside.resolve_left (Nat.not_lt_of_ge many)))

/-- What a retention of any 64-bit number of days removes from a folder, whatever is in it. A
retention that begins in the calendar never fails and removes exactly the log files that
were last changed before it began. One of fewer than 2^63 days that begins earlier is a
fault and removes nothing, so that a longer one never removes more and no file is removed
that was changed since the retention began. With at least 2^63 days the same fault arises if
the days to come lead out of the calendar; else all log files go that were changed before
the last of these days. -/
theorem retention_decided (found : disk.folderAt path = .ok folder)
    (present : Calendar.Holds now) (word : days < twoTo 64) :
    let begun := now - days * secondsPerDay
    let ahead := now + (twoTo 64 - days : Nat) * secondsPerDay
    let cleaned := removeExpired path days now disk
    (earliest ≤ begun →
      cleaned.value = .ok () ∧ Cleans folder (LogFileBefore begun) disk cleaned.state) ∧
    (begun < earliest → days < twoTo 63 ∨ latest < ahead →
      cleaned.value = .error .outOfCalendar ∧ cleaned.state = disk) ∧
    (twoTo 63 ≤ days → ahead ≤ latest →
      cleaned.value = .ok () ∧ Cleans folder (LogFileBefore ahead) disk cleaned.state) ∧
    (∀ more, days ≤ more → more < twoTo 63 → (cleaned.state.entries folder).Sublist
      ((removeExpired path more now disk).state.entries folder)) ∧
    (days < twoTo 63 → ∀ name contents modified, begun ≤ modified →
      (name, .file contents modified) ∈ disk.entries folder →
        (name, .file contents modified) ∈ cleaned.state.entries folder) := by
  refine ⟨fun reached => cleans_of_some found (Retention.cutoff?_of_begins present reached),
    fun beyond outside => ?fault, fun many inside => ?ahead,
    fun more longer few => entries_sublist found present longer few,
    fun few name contents modified since held => ?kept⟩
  case fault =>
    have untouched := removeExpired_outside path disk present word beyond outside
    exact ⟨congrArg Traced.value untouched, congrArg Traced.state untouched⟩
  case ahead =>
    refine cleans_of_some found ?_
    rw [Retention.cutoff?_of_le present many word]
    exact if_pos inside
  case kept =>
    rcases entries_of_lt found present few with ⟨-, left⟩ | ⟨-, left⟩ <;> rw [left]
    · exact held
    · refine List.mem_filter.mpr ⟨held, decide_eq_true ?_⟩
      exact fun older => Int.not_le_of_gt older.2 since

/-- A folder with an old log file, a new one and something else. -/
def someLogs : Disk where
  home := []
  root := .folder [("logs", .folder [("photon-offload.log.2023-01-01", .file (.text "") 1672531200),
    ("photon-offload.log.2023-11-14", .file (.text "") 1700000000), ("notes.txt", .file .other 0)])]

/-- After a week of silence the old log file is removed. -/
theorem retention_decided_week :
    let cleaned := removeExpired "/logs" 7 1700000000 someLogs
    cleaned.value = .ok () ∧ (cleaned.state.entries ["logs"]).map Prod.fst =
      ["photon-offload.log.2023-11-14", "notes.txt"] := by
  have found : someLogs.folderAt "/logs" = .ok ["logs"] := by decide +kernel
  have present : Calendar.Holds 1700000000 := by decide
  have decided := retention_decided found present (show 7 < twoTo 64 by decide)
  obtain ⟨done, cleans⟩ := decided.1 (by decide)
  refine ⟨done, ?_⟩
  rw [cleans.entries]
  decide +kernel

/-- The longest retention removes a log file that was changed this very second, and a
retention that begins before the calendar is a fault. -/
theorem longest_retention_removes_new :
    let cleaned := removeExpired "/logs" (twoTo 64 - 1) 1700000000 someLogs
    let faulty := removeExpired "/logs" 100000000 1700000000 someLogs
    cleaned.value = .ok () ∧ (cleaned.state.entries ["logs"]).map Prod.fst = ["notes.txt"] ∧
      faulty.value = .error .outOfCalendar ∧ LoggingError.outOfCalendar.isFault = true := by
  decide +kernel

end Logging

end PhotonFerry
