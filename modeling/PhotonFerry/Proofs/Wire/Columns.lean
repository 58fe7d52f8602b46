import PhotonFerry.Proofs.Wire.Words
/-!
# Columns are exact

A column and its frame are inverse to each other: every column comes back bit for
bit from its frame, and every frame of whole words is the frame of the column
that it holds. So are one or two words and a frame of that size.
-/

namespace PhotonFerry.Wire

/-- The bytes of words are read as these words. -/
theorem unpackWords_flatMap (words : List UInt32) (read : Array UInt32) :
    unpackWords read (words.flatMap wordBytes) = read ++ words.toArray := by
  induction words generalizing read with
  | nil => simp [unpackWords]
  | cons word rest step =>
    have first : wordOf word.toUInt8 (word >>> 8).toUInt8 (word >>> 16).toUInt8
        (word >>> 24).toUInt8 = word := wordOf_eq_iff.mpr rfl
    simp only [List.flatMap_cons, wordBytes, List.cons_append, List.nil_append, unpackWords]
    rw [first, step, Array.push_eq_append, Array.append_assoc]
    simp

/-- Whole words that were read have the bytes that they were read from. -/
theorem flatMap_unpackWords (read : Array UInt32) (bytes : List UInt8)
    (whole : bytes.length % wordSize = 0) :
    (unpackWords read bytes).toList.flatMap wordBytes =
      read.toList.flatMap wordBytes ++ bytes := by
  simp only [wordSize] at whole
  fun_induction unpackWords read bytes with
  | case1 read first second third fourth rest step =>
    have front : [first, second, third, fourth] = wordBytes (wordOf first second third fourth) :=
      wordOf_eq_iff.mp rfl
    have later : rest.length % 4 = 0 := by
      simp only [List.length_cons] at whole
      omega
    rw [step later, Array.toList_push, List.flatMap_append, List.flatMap_singleton, ← front,
      List.append_assoc]
    rfl
  | case2 bytes read short =>
    have none : bytes = [] := by
      rcases bytes with _ | ⟨first, _ | ⟨second, _ | ⟨third, _ | ⟨fourth, rest⟩⟩⟩⟩
      · rfl
      · simp at whole
      · simp at whole
      · simp at whole
      · exact absurd rfl (short first second third fourth rest)
    rw [none, List.append_nil]

/-- Words behind other words are packed behind them. -/
theorem packWords_append (first second : List UInt32) :
    packWords (first ++ second) = packWords first ++ packWords second := by
  ext1
  simp [packWords]

/-- Words behind each other are packed behind each other. -/
theorem packWords_cons (word : UInt32) (words : List UInt32) :
    packWords (word :: words) = packWords [word] ++ packWords words := by
  ext1
  simp [packWords]

/-- Each word has four bytes. -/
theorem size_packWords (words : List UInt32) :
    (packWords words).size = words.length * wordSize := by
  induction words with
  | nil => rfl
  | cons word rest step =>
    rw [packWords_cons, ByteArray.size_append, step, size_packWords_singleton, List.length_cons,
      Nat.succ_mul, Nat.add_comm]

/-- Packed words are read one by one. -/
theorem wordAt?_packWords (words : List UInt32) (index : Nat) :
    wordAt? (packWords words) (index * wordSize) = words[index]? := by
  by_cases inside : index < words.length
  · have split : packWords words = packWords (words.take index) ++ packWords [words[index]] ++
        packWords (words.drop (index + 1)) := by
      rw [← packWords_append, ← packWords_append, List.append_assoc, List.singleton_append,
        List.getElem_cons_drop, List.take_append_drop]
    have before : (packWords (words.take index)).size = index * wordSize := by
      rw [size_packWords, List.length_take, Nat.min_eq_left (Nat.le_of_lt inside)]
    have stands := (StandsAt.append_iff.mp (StandsAt.front_iff.mp split).1).2
    rw [Nat.zero_add, before] at stands
    rw [wordAt?_eq_some_iff.mpr stands, List.getElem?_eq_getElem inside]
  · rw [List.getElem?_eq_none (Nat.le_of_not_lt inside), Option.eq_none_iff_forall_ne_some]
    intro word read
    have fits := (wordAt?_eq_some_iff.mp read).1
    rw [size_packWords_singleton, size_packWords, wordSize] at fits
    omega

/-- A frame of one word is that word. -/
theorem wordAt?_eq_some_iff_eq {frame : ByteArray} {word : UInt32}
    (size : frame.size = wordSize) : wordAt? frame 0 = some word ↔ frame = packWords [word] := by
  have whole : StandsAt (packWords [word]) frame 0 ↔ frame = packWords [word] ++ .empty := by
    rw [StandsAt.front_iff]
    simp [size]
  rw [wordAt?_eq_some_iff, whole, ByteArray.append_empty]

/-- A frame of two words is one behind the other. -/
theorem wordsAt?_eq_some_iff_eq {frame : ByteArray} {word count : UInt32}
    (size : frame.size = 2 * wordSize) :
    wordAt? frame 0 = some word ∧ wordAt? frame wordSize = some count ↔
      frame = packWords [word, count] := by
  have whole : StandsAt (packWords [word] ++ packWords [count]) frame 0 ↔
      frame = packWords [word] ++ packWords [count] ++ .empty := by
    rw [StandsAt.front_iff]
    simp [size, ByteArray.size_append, Nat.two_mul]
  rw [ByteArray.append_empty, StandsAt.append_iff, size_packWords_singleton, Nat.zero_add] at whole
  rw [wordAt?_eq_some_iff, wordAt?_eq_some_iff, packWords_cons word [count], whole]

section Column

variable {α : Type} [Packed α]

/-- A frame has four bytes for each entry of its column. -/
@[simp] theorem size_columnFrame (column : Array α) :
    (columnFrame column).size = column.size * wordSize := by
  rw [columnFrame, size_packWords, List.length_map, Array.length_toList]

/-- A column comes back from its frame. -/
@[simp] theorem columnOf_columnFrame (column : Array α) :
    columnOf (columnFrame column) = column := by
  rw [columnOf, columnFrame, packWords, unpackWords_flatMap]
  ext1
  · simp
  · simp [Packed.ofWord_toWord]

/-- A frame of whole words is that of its column. -/
theorem columnFrame_columnOf {frame : ByteArray} {count : Nat}
    (size : frame.size = count * wordSize) : columnFrame (columnOf frame : Array α) = frame := by
  have whole : frame.data.toList.length % wordSize = 0 := by
    rw [Array.length_toList]
    change frame.size % wordSize = 0
    rw [size, Nat.mul_mod_left]
  have same : ((columnOf frame : Array α).toList.map Packed.toWord) =
      (unpackWords #[] frame.data.toList).toList := by
    simp [columnOf, Packed.toWord_ofWord, Function.comp_def]
  rw [columnFrame, same, packWords, flatMap_unpackWords _ _ whole]
  rfl

/-- A column is written as a frame of whole words exactly if it is the column of that frame. -/
theorem columnFrame_eq_iff {frame : ByteArray} {count : Nat} {column : Array α}
    (size : frame.size = count * wordSize) :
    columnFrame column = frame ↔ column = columnOf frame := by
  constructor
  · rintro rfl
    exact (columnOf_columnFrame column).symm
  · rintro rfl
    exact columnFrame_columnOf size

/-- The entries of a column are the words of its frame. -/
theorem wordAt?_eq_getElem?_columnOf {frame : ByteArray} {count : Nat}
    (size : frame.size = count * wordSize) (index : Nat) :
    wordAt? frame (index * wordSize) = (columnOf frame : Array α)[index]?.map Packed.toWord := by
  calc wordAt? frame (index * wordSize)
    _ = wordAt? (columnFrame (columnOf frame : Array α)) (index * wordSize) := by
      rw [columnFrame_columnOf size]
    _ = ((columnOf frame : Array α).toList.map Packed.toWord)[index]? := wordAt?_packWords _ _
    _ = (columnOf frame : Array α)[index]?.map Packed.toWord := by
      rw [List.getElem?_map, Array.getElem?_toList]

/-- A frame of so many whole words holds a column of that size. -/
theorem size_columnOf_of_size {frame : ByteArray} {count : Nat}
    (size : frame.size = count * wordSize) : (columnOf frame : Array α).size = count := by
  rw [size_columnOf, size, Nat.mul_div_cancel _ (by decide)]

end Column

end PhotonFerry.Wire
