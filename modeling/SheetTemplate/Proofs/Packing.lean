import Mathlib.Algebra.GroupWithZero.Nat
import SheetTemplate.Package.Archive

namespace SheetTemplate.Package

def Holds (b : ByteArray) (n : Nat) (l : List UInt8) : Prop :=
  ∃ before after, toList b = before ++ (l ++ after) ∧ before.length = n

theorem length_toList (b : ByteArray) : (toList b).length = b.size := rfl

theorem toList_ofList (l : List UInt8) : toList (ofList l) = l := rfl

theorem toList_append (b b' : ByteArray) : toList (b ++ b') = toList b ++ toList b' := by
  simp [toList]

theorem length_littleEndian (width n : Nat) : (littleEndian width n).length = width := by
  induction width generalizing n with
  | zero => rfl
  | succ width ih => rw [littleEndian, List.length_cons, ih]

namespace Holds

variable {b : ByteArray} {n : Nat}

theorem left {l l' : List UInt8} (h : Holds b n (l ++ l')) : Holds b n l := by
  obtain ⟨before, after, hbytes, rfl⟩ := h
  exact ⟨before, l' ++ after, by rw [hbytes, List.append_assoc], rfl⟩

theorem right {l l' : List UInt8} (h : Holds b n (l ++ l')) : Holds b (n + l.length) l' := by
  obtain ⟨before, after, hbytes, rfl⟩ := h
  refine ⟨before ++ l, after, ?_, List.length_append⟩
  rw [hbytes]
  simp only [List.append_assoc]

theorem head {x : UInt8} {l : List UInt8} (h : Holds b n (x :: l)) : b[n]? = some x := by
  obtain ⟨before, after, hbytes, rfl⟩ := h
  have hget : (toList b)[before.length]? = some x := by
    rw [hbytes, List.getElem?_append_right (Nat.le_refl _), Nat.sub_self]
    rfl
  rw [← hget]
  unfold toList
  rw [Array.getElem?_toList]
  rfl

theorem number {width v : Nat} {l : List UInt8} (h : Holds b n (littleEndian width v ++ l))
    (hv : v < 256 ^ width) : readNumber? b n width = some v := by
  induction width generalizing n v with
  | zero =>
    obtain rfl : v = 0 := Nat.lt_one_iff.1 hv
    rfl
  | succ width ih =>
    have hhigh : v / 256 < 256 ^ width := by
      rw [Nat.div_lt_iff_lt_mul (by decide)]
      exact hv
    have htail : readNumber? b (n + 1) width = some (v / 256) :=
      ih (h.right (l := [UInt8.ofNat v])) hhigh
    rw [readNumber?, h.head]
    change (readNumber? b (n + 1) width).bind _ = _
    rw [htail]
    change some ((UInt8.ofNat v).toNat + 256 * (v / 256)) = _
    rw [UInt8.toNat_ofNat', Nat.mod_add_div]

theorem skip {width v : Nat} {l : List UInt8} (h : Holds b n (littleEndian width v ++ l)) :
    Holds b (n + width) l := by
  have hright := h.right
  rwa [length_littleEndian] at hright

theorem slice {a : ByteArray} (h : Holds b n (toList a)) : slice? b n a.size = some a := by
  obtain ⟨before, after, hbytes, rfl⟩ := h
  have hlength := congrArg List.length hbytes
  rw [List.length_append, List.length_append, length_toList, length_toList] at hlength
  rw [slice?, if_pos (by omega)]
  refine congrArg some (ByteArray.ext (Array.ext' ?_))
  rw [ByteArray.data_extract, Array.toList_extract, List.extract_eq_take_drop]
  change ((toList b).drop _).take _ = toList a
  rw [hbytes, List.drop_left, Nat.add_sub_cancel_left, ← length_toList, List.take_left]

end Holds

structure Entry.Fits (e : Entry) : Prop where
  method : e.method < 256 ^ 2
  plain : e.method ≠ 99
  crc : e.crc < 256 ^ 4
  packed : e.data.size < 256 ^ 4
  size : e.size < 256 ^ 4
  name : e.name.utf8ByteSize < 256 ^ 2

def partBytes (entries : List Entry) : List UInt8 := entries.flatMap fun e => toList e.localBytes

def directoryFrom (start : Nat) : List Entry → List UInt8
  | [] => []
  | e :: rest => toList (e.directoryBytes start) ++ directoryFrom (start + e.localBytes.size) rest

theorem bodyBytes_foldl (entries : List Entry) (parts directory : ByteArray) :
    let out := entries.foldl (fun (parts, directory) e =>
      (parts ++ e.localBytes, directory ++ e.directoryBytes parts.size)) (parts, directory)
    toList out.1 = toList parts ++ partBytes entries ∧
      toList out.2 = toList directory ++ directoryFrom parts.size entries := by
  induction entries generalizing parts directory with
  | nil => simp [partBytes, directoryFrom]
  | cons e rest ih =>
    obtain ⟨hparts, hdirectory⟩ := ih (parts ++ e.localBytes) (directory ++ e.directoryBytes parts.size)
    rw [toList_append, List.append_assoc] at hparts hdirectory
    rw [ByteArray.size_append] at hdirectory
    exact ⟨hparts, hdirectory⟩

def endBytes (count directorySize partsSize : Nat) : List UInt8 :=
  littleEndian 4 endSignature ++ (littleEndian 2 0 ++ (littleEndian 2 0 ++ (littleEndian 2 count ++
    (littleEndian 2 count ++ (littleEndian 4 directorySize ++ (littleEndian 4 partsSize ++
      littleEndian 2 0))))))

theorem toList_write (entries : List Entry) :
    toList (write entries) = partBytes entries ++ (directoryFrom 0 entries ++
      endBytes entries.length (directoryFrom 0 entries).length (partBytes entries).length) := by
  obtain ⟨hparts, hdirectory⟩ := bodyBytes_foldl entries .empty .empty
  have hdata : toList ByteArray.empty = [] := rfl
  rw [hdata, List.nil_append] at hparts hdirectory
  change toList (bodyBytes entries).1 = _ at hparts
  change toList (bodyBytes entries).2 = directoryFrom 0 entries at hdirectory
  unfold write
  simp only [toList_append, toList_ofList, hparts, hdirectory, ← length_toList, endBytes,
    List.append_assoc]

section

variable {b : ByteArray} {e : Entry}

theorem size_name (e : Entry) : e.name.toUTF8.size = e.name.utf8ByteSize := rfl

theorem size_localBytes (e : Entry) :
    e.localBytes.size = 30 + e.name.utf8ByteSize + e.data.size := by
  rw [← length_toList, Entry.localBytes]
  simp only [toList_append, toList_ofList, Entry.sharedFields, List.length_append,
    length_littleEndian, length_toList, size_name]

theorem localData?_eq {offset : Nat} (h : Holds b offset (toList e.localBytes)) (hfits : e.Fits) :
    localData? b offset e.data.size = some e.data := by
  unfold Entry.localBytes Entry.sharedFields at h
  simp only [toList_append, toList_ofList, List.append_assoc] at h
  have hsignature := h.number (by decide)
  have hname := h.skip.skip.skip.skip.skip.skip.skip.skip.number hfits.name
  have hextra := h.skip.skip.skip.skip.skip.skip.skip.skip.skip.number (by decide)
  have hdata := h.skip.skip.skip.skip.skip.skip.skip.skip.skip.skip.right.slice
  simp only [Nat.add_assoc, Nat.reduceAdd, length_toList, size_name] at hname hextra hdata
  unfold localData?
  rw [hsignature, hname, hextra]
  change (if headSignature ≠ headSignature then none else
    slice? b (offset + 30 + e.name.utf8ByteSize + 0) e.data.size) = _
  rw [if_neg (fun hne => hne rfl), Nat.add_zero, Nat.add_assoc]
  exact hdata

theorem size_directoryBytes (e : Entry) (offset : Nat) :
    (toList (e.directoryBytes offset)).length = 46 + e.name.utf8ByteSize := by
  rw [Entry.directoryBytes]
  simp only [toList_append, toList_ofList, Entry.sharedFields, List.length_append,
    length_littleEndian, length_toList, size_name]

theorem fromUTF8?_toUTF8 (s : String) : String.fromUTF8? s.toUTF8 = some s := by
  rw [String.fromUTF8?, String.toUTF8_eq_toByteArray, dif_pos s.isValidUTF8]
  rfl

variable {pos start : Nat}

structure Entry.ListedAt (e : Entry) (b : ByteArray) (pos start : Nat) : Prop where
  signature : readNumber? b pos 4 = some directorySignature
  method : readNumber? b (pos + 10) 2 = some e.method
  crc : readNumber? b (pos + 16) 4 = some e.crc
  packed : readNumber? b (pos + 20) 4 = some e.data.size
  size : readNumber? b (pos + 24) 4 = some e.size
  nameSize : readNumber? b (pos + 28) 2 = some e.name.utf8ByteSize
  extraSize : readNumber? b (pos + 30) 2 = some 0
  commentSize : readNumber? b (pos + 32) 2 = some 0
  offset : readNumber? b (pos + 42) 4 = some start
  name : slice? b (pos + 46) e.name.utf8ByteSize = some e.name.toUTF8

theorem Entry.Fits.listedAt (hfits : e.Fits) (hstart : start < 256 ^ 4)
    (h : Holds b pos (toList (e.directoryBytes start))) : e.ListedAt b pos start := by
  unfold directoryBytes sharedFields at h
  simp only [toList_append, toList_ofList, List.append_assoc] at h
  have hmethod := h.skip.skip.skip.skip.number hfits.method
  have hcrc := h.skip.skip.skip.skip.skip.skip.number hfits.crc
  have hpacked := h.skip.skip.skip.skip.skip.skip.skip.number hfits.packed
  have hsize := h.skip.skip.skip.skip.skip.skip.skip.skip.number hfits.size
  have htail := h.skip.skip.skip.skip.skip.skip.skip.skip.skip
  have hname := htail.number hfits.name
  have hextra := htail.skip.number (by decide)
  have hcomment := htail.skip.skip.number (by decide)
  have hoffset := htail.skip.skip.skip.skip.skip.skip.number hstart
  have htext := htail.skip.skip.skip.skip.skip.skip.skip.slice
  simp only [Nat.add_assoc, Nat.reduceAdd] at hmethod hcrc hpacked hsize hname hextra
  simp only [Nat.add_assoc, Nat.reduceAdd, size_name] at hcomment hoffset htext
  exact ⟨h.number (by decide), hmethod, hcrc, hpacked, hsize, hname, hextra, hcomment, hoffset, htext⟩

theorem readDirectory?_succ (h : e.ListedAt b pos start) (hplain : e.method ≠ 99)
    (hdata : localData? b start e.data.size = some e.data) (n : Nat) :
    readDirectory? b (n + 1) pos =
      (readDirectory? b n (pos + 46 + e.name.utf8ByteSize)).map (e :: ·) := by
  rw [readDirectory?, h.signature, h.method]
  change (if directorySignature ≠ directorySignature ∨ e.method = 99 then none else _) = _
  rw [if_neg (by simp [hplain]), h.crc, h.packed, h.size, h.nameSize, h.extraSize, h.commentSize,
    h.offset]
  change (slice? b (pos + 46) e.name.utf8ByteSize).bind _ = _
  rw [h.name]
  change (String.fromUTF8? e.name.toUTF8).bind _ = _
  rw [fromUTF8?_toUTF8]
  change (localData? b start e.data.size).bind _ = _
  rw [hdata]
  change (readDirectory? b n (pos + 46 + e.name.utf8ByteSize + 0 + 0)).bind _ = _
  rw [Nat.add_zero, Nat.add_zero]
  cases readDirectory? b n (pos + 46 + e.name.utf8ByteSize) <;> rfl

theorem readDirectory?_eq {entries : List Entry} (hfits : ∀ e ∈ entries, e.Fits)
    (hdirectory : Holds b pos (directoryFrom start entries))
    (hparts : Holds b start (partBytes entries))
    (hsmall : start + (partBytes entries).length < 256 ^ 4) :
    readDirectory? b entries.length pos = some entries := by
  -- The entry says where its part begins, and where that one ends the next one begins.
  induction entries generalizing pos start with
  | nil => rfl
  | cons e rest ih =>
    rw [List.forall_mem_cons] at hfits
    change Holds b start (toList e.localBytes ++ partBytes rest) at hparts
    change Holds b pos (toList (e.directoryBytes start) ++ _) at hdirectory
    have hlength : (partBytes (e :: rest)).length = e.localBytes.size + (partBytes rest).length :=
      List.length_append
    have hlisted := hfits.1.listedAt (by omega) hdirectory.left
    have hbehind := hdirectory.right
    rw [size_directoryBytes, ← Nat.add_assoc] at hbehind
    have hrest := ih hfits.2 hbehind hparts.right (by rw [Nat.add_assoc, ← hlength]; exact hsmall)
    rw [List.length_cons,
      readDirectory?_succ hlisted hfits.1.plain (localData?_eq hparts.left hfits.1), hrest]
    rfl

end

theorem findEnd?_eq {b : ByteArray} {n : Nat} (h : readNumber? b n 4 = some endSignature) :
    findEnd? b n = some n := by
  cases n with
  | zero => rw [findEnd?, if_pos h]
  | succ n => rw [findEnd?, if_pos h]

/-- The bytes of a written package, counted. -/
theorem size_write (entries : List Entry) :
    (write entries).size =
      (partBytes entries).length + (directoryFrom 0 entries).length + 22 := by
  rw [← length_toList, toList_write]
  simp only [endBytes, List.length_append, length_littleEndian]
  omega

/-- A package that is small enough for its directory is read as it was written. -/
theorem read?_write {entries : List Entry} (hfits : ∀ e ∈ entries, e.Fits)
    (hcount : entries.length < 256 ^ 2) (hsize : (write entries).size < 256 ^ 4) :
    read? (write entries) = some entries := by
  have hwrite := size_write entries
  have hall : Holds (write entries) 0 (toList (write entries)) := ⟨[], [], by simp, rfl⟩
  rw [toList_write] at hall
  have hdirectory := hall.right.left
  have hrecord := hall.right.right
  rw [Nat.zero_add] at hdirectory hrecord
  rw [show (partBytes entries).length + (directoryFrom 0 entries).length =
    (write entries).size - 22 by omega] at hrecord
  unfold endBytes at hrecord
  have hsignature := hrecord.number (by decide)
  have hentries := hrecord.skip.skip.skip.skip.number hcount
  have hstart := hrecord.skip.skip.skip.skip.skip.skip.number
    (v := (partBytes entries).length) (by omega)
  simp only [Nat.add_assoc, Nat.reduceAdd] at hentries hstart
  unfold read?
  rw [findEnd?_eq hsignature]
  change (readNumber? _ ((write entries).size - 22 + 10) 2).bind _ = _
  rw [hentries]
  change (readNumber? _ ((write entries).size - 22 + 16) 4).bind _ = _
  rw [hstart]
  change (if (write entries).size < 22 then none else _) = _
  rw [if_neg (by omega)]
  exact readDirectory?_eq hfits hdirectory hall.left (by omega)

theorem crcStep_lt {c : Nat} (h : c < 2 ^ 32) : crcStep c < 2 ^ 32 := by
  unfold crcStep
  split
  · exact Nat.xor_lt_two_pow (by omega) (by decide)
  · omega

theorem crcByte_lt {c : Nat} (h : c < 2 ^ 32) (x : UInt8) : crcByte c x < 2 ^ 32 := by
  have hstart : c ^^^ x.toNat < 2 ^ 32 := Nat.xor_lt_two_pow h (by have := x.toNat_lt; omega)
  have hsteps (k : Nat) : Nat.repeat crcStep k (c ^^^ x.toNat) < 2 ^ 32 := by
    induction k with
    | zero => exact hstart
    | succ k ih => exact crcStep_lt ih
  exact hsteps 8

theorem crc32_lt (b : ByteArray) : crc32 b < 2 ^ 32 := by
  unfold crc32
  refine Nat.xor_lt_two_pow ?_ (by decide)
  rw [← Array.foldl_toList]
  have hbytes (l : List UInt8) (c : Nat) (h : c < 2 ^ 32) : l.foldl crcByte c < 2 ^ 32 := by
    induction l generalizing c with
    | nil => exact h
    | cons x l ih => exact ih _ (crcByte_lt h x)
  exact hbytes _ _ (by decide)

theorem contents_ofContents (name : String) (contents : ByteArray) :
    (Entry.ofContents name contents).contents = .ok contents :=
  if_pos rfl

theorem fits_ofContents {name : String} {contents : ByteArray}
    (hname : name.utf8ByteSize < 256 ^ 2) (hcontents : contents.size < 256 ^ 4) :
    (Entry.ofContents name contents).Fits where
  method := show 0 < 256 ^ 2 by decide
  plain := show 0 ≠ 99 by decide
  crc := crc32_lt contents
  packed := hcontents
  size := hcontents
  name := hname

theorem size_data_le {entries : List Entry} {e : Entry} (he : e ∈ entries) :
    e.data.size ≤ (write entries).size := by
  have hmem : (toList e.localBytes).length ≤ (partBytes entries).length := by
    have hlist := List.mem_map_of_mem (f := fun e : Entry => toList e.localBytes) he
    rw [partBytes, List.flatMap_def]
    exact (List.sublist_flatten_of_mem hlist).length_le
  rw [length_toList, size_localBytes] at hmem
  rw [size_write]
  omega

/-- The parts of a package written from plain contents are read back. -/
theorem read?_write_ofContents {parts : List (String × ByteArray)}
    (hnames : ∀ p ∈ parts, p.1.utf8ByteSize < 256 ^ 2) (hcount : parts.length < 256 ^ 2)
    (hsize : (write (parts.map fun p => .ofContents p.1 p.2)).size < 256 ^ 4) :
    read? (write (parts.map fun p => .ofContents p.1 p.2)) =
      some (parts.map fun p => .ofContents p.1 p.2) := by
  refine read?_write ?_ (by rwa [List.length_map]) hsize
  intro e he
  have hle := size_data_le he
  obtain ⟨p, hp, rfl⟩ := List.mem_map.1 he
  exact fits_ofContents (hnames p hp) (Nat.lt_of_le_of_lt hle hsize)

end SheetTemplate.Package
