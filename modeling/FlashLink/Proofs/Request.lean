/-
What a device reads from the payload of a request.

A text survives its 16-bit units (`lossy_units`): a character of the
basic plane is no surrogate, and a pair gives back the character it was
made of. In a name field the units are followed by zeros, and only the
character zero has a zero unit, so reading stops where the name has its
first zero character or where the padding begins (`ofBytes_toBytes`).
For a name without that character nothing is lost.

Both readers take what they need and ignore what follows. So a request
for a partition can be made of exactly the names whose units fit the
field, and what it is read as settles the rest: it comes back whole unless
its name has a zero character, and two requests that differ in what is
read of them differ on the wire (`make_codec`).
-/
import FlashLink.Request
import Mathlib.Algebra.Ring.Nat
import Mathlib.Data.List.TakeWhile

namespace FlashLink

namespace Utf16

-- ========================================================== characters

/-- No character is a surrogate. -/
theorem toNat_not_surrogate (c : Char) : c.toNat < 0xD800 ∨ 0xDFFF < c.toNat ∧ c.toNat < 0x110000 :=
  c.valid

theorem toNat_ofNat {n : Nat} (h : n < 0x10000) : (UInt16.ofNat n).toNat = n :=
  UInt16.toNat_ofNat_of_lt' h

/-- What a character costs in a name field: a unit, or two outside the
basic plane. -/
def cost (c : Char) : Nat := if c.toNat ≤ 0xFFFF then 1 else 2

theorem length_units (cs : List Char) : (units cs).length = (cs.map cost).sum := by
  have hchar (c : Char) : (ofChar c).length = cost c := by
    unfold ofChar cost
    by_cases h : c.toNat < 0x10000
    · rw [if_pos h, if_pos (Nat.le_of_lt_succ h)]
      rfl
    · rw [if_neg h, if_neg fun hle => h (Nat.lt_succ_of_le hle)]
      rfl
  induction cs with
  | nil => rfl
  | cons c cs ih =>
      show (ofChar c ++ units cs).length = _
      rw [List.length_append, hchar, ih, List.map_cons, List.sum_cons]

theorem isHigh_eq (u : UInt16) :
    isHigh u = (decide (0xD800 ≤ u.toNat) && decide (u.toNat ≤ 0xDBFF)) := by
  unfold isHigh
  rw [Bool.eq_iff_iff]
  simp [UInt16.le_iff_toNat_le]

theorem isLow_eq (u : UInt16) :
    isLow u = (decide (0xDC00 ≤ u.toNat) && decide (u.toNat ≤ 0xDFFF)) := by
  unfold isLow
  rw [Bool.eq_iff_iff]
  simp [UInt16.le_iff_toNat_le]

/-- A unit that is no surrogate stands for itself. -/
theorem lossy_cons_of_plain {u : UInt16} (hhigh : isHigh u = false) (hlow : isLow u = false)
    (rest : List UInt16) : lossy (u :: rest) = Char.ofNat u.toNat :: lossy rest := by
  cases rest with
  | nil => simp [lossy, hhigh, hlow]
  | cons v rest => simp [lossy, hhigh, hlow]

/-- A pair stands for one character. -/
theorem lossy_cons_of_pair {u v : UInt16} (hhigh : isHigh u = true) (hlow : isLow v = true)
    (rest : List UInt16) : lossy (u :: v :: rest) = ofPair u v :: lossy rest := by
  simp [lossy, hhigh, hlow]

/-- The units of a character read as that character, whatever
follows. -/
theorem lossy_ofChar_append (c : Char) (rest : List UInt16) :
    lossy (ofChar c ++ rest) = c :: lossy rest := by
  have hvalid := toNat_not_surrogate c
  unfold ofChar
  split
  · rename_i hbasic
    have hu := toNat_ofNat hbasic
    have hhigh : isHigh (UInt16.ofNat c.toNat) = false := by
      rw [isHigh_eq, hu]
      simp
      omega
    have hlow : isLow (UInt16.ofNat c.toNat) = false := by
      rw [isLow_eq, hu]
      simp
      omega
    rw [List.singleton_append, lossy_cons_of_plain hhigh hlow, hu, Char.ofNat_toNat]
  · rename_i hpair
    have hu : (UInt16.ofNat (0xD800 + (c.toNat - 0x10000) / 1024)).toNat
        = 0xD800 + (c.toNat - 0x10000) / 1024 := toNat_ofNat (by omega)
    have hv : (UInt16.ofNat (0xDC00 + (c.toNat - 0x10000) % 1024)).toNat
        = 0xDC00 + (c.toNat - 0x10000) % 1024 := toNat_ofNat (by omega)
    have hhigh : isHigh (UInt16.ofNat (0xD800 + (c.toNat - 0x10000) / 1024)) = true := by
      rw [isHigh_eq, hu]
      simp
      omega
    have hlow : isLow (UInt16.ofNat (0xDC00 + (c.toNat - 0x10000) % 1024)) = true := by
      rw [isLow_eq, hv]
      simp
      omega
    show lossy (_ :: _ :: rest) = _
    rw [lossy_cons_of_pair hhigh hlow]
    unfold ofPair
    rw [hu, hv]
    have hsum : 0x10000 + (0xD800 + (c.toNat - 0x10000) / 1024 - 0xD800) * 1024
        + (0xDC00 + (c.toNat - 0x10000) % 1024 - 0xDC00) = c.toNat := by
      omega
    rw [hsum, Char.ofNat_toNat]

/-- A text survives its units. -/
theorem lossy_units (cs : List Char) : lossy (units cs) = cs := by
  induction cs with
  | nil => rfl
  | cons c cs ih =>
      show lossy (ofChar c ++ units cs) = _
      rw [lossy_ofChar_append, ih]

-- =============================================================== zeros

/-- Only the character zero has a zero unit. -/
theorem ne_zero_of_mem_ofChar {c : Char} (hc : c ≠ '\x00') {u : UInt16} (hu : u ∈ ofChar c) :
    u ≠ 0 := by
  have hnat : c.toNat ≠ 0 := fun h => hc (Char.toNat_inj.1 h)
  have hvalid := toNat_not_surrogate c
  unfold ofChar at hu
  intro hzero
  have hval : u.toNat = 0 := by rw [hzero]; rfl
  split at hu
  · rename_i hbasic
    rw [List.mem_singleton.1 hu, toNat_ofNat hbasic] at hval
    exact hnat hval
  · rename_i hpair
    simp only [List.mem_cons, List.not_mem_nil, or_false] at hu
    rcases hu with rfl | rfl
    · rw [toNat_ofNat (by omega)] at hval
      omega
    · rw [toNat_ofNat (by omega)] at hval
      omega

/-- Units up to the first zero are those of the text up to its first
zero. -/
theorem takeWhile_units_append_zeros (cs : List Char) (count : Nat) :
    (units cs ++ List.replicate count 0).takeWhile (· != 0)
      = units (cs.takeWhile (· != '\x00')) := by
  induction cs with
  | nil =>
      show (List.replicate count 0).takeWhile _ = []
      cases count <;> rfl
  | cons c cs ih =>
      show ((ofChar c ++ units cs) ++ _).takeWhile _ = _
      by_cases hc : c = '\x00'
      · subst hc
        rfl
      · rw [List.append_assoc, List.takeWhile_append_of_pos (fun u hu => by
            simpa using ne_zero_of_mem_ofChar hc hu), ih,
          List.takeWhile_cons_of_pos (by simpa using hc)]
        rfl

end Utf16

-- ==================================================== naming a partition

namespace Upload

/-- The name under which a device opens a partition: it ends at its
first zero. -/
def nameSeen (name : String) : String := String.ofList (name.toList.takeWhile (· != '\x00'))

theorem nameSeen_eq_self_iff (name : String) : nameSeen name = name ↔ '\x00' ∉ name.toList := by
  unfold nameSeen
  rw [← String.toList_inj, String.toList_ofList, List.takeWhile_eq_self_iff]
  constructor
  · intro hall hmem
    exact absurd (hall _ hmem) (by decide)
  · intro hzero c hc
    rw [bne_iff_ne]
    rintro rfl
    exact hzero hc

theorem nameSeen_of_not_mem {name : String} (h : '\x00' ∉ name.toList) :
    nameSeen name = name := (nameSeen_eq_self_iff name).2 h

end Upload

namespace PartitionRequest

open Upload (nameSeen nameSeen_eq_self_iff nameSeen_of_not_mem)

/-- A request that was made has the name and the size it was made of. -/
theorem eq_of_make {name : String} {size : UInt32} {r : PartitionRequest}
    (h : make name size = .ok r) :
    r = { name, size } ∧ name.toList ≠ [] ∧ (Utf16.units name.toList).length ≤ nameUnits := by
  unfold make at h
  split at h
  · cases h
  · rename_i hne
    split at h
    · cases h
    · rename_i hfits
      cases h
      exact ⟨rfl, hne, Nat.le_of_not_lt hfits⟩

theorem unitsOf_flatMap_le16_append (us : List UInt16) (rest : Bytes) :
    unitsOf (us.flatMap Word.le16 ++ rest) = us ++ unitsOf rest := by
  induction us with
  | nil => rfl
  | cons u us ih =>
      show Word.ofBytes16 (u >>> 8).toUInt8 u.toUInt8 :: unitsOf (us.flatMap Word.le16 ++ rest) = _
      rw [Word.ofBytes16_be16, ih]
      rfl

theorem unitsOf_zeros (count : Nat) :
    unitsOf (List.replicate (2 * count) 0) = List.replicate count 0 := by
  induction count with
  | zero => rfl
  | succ count ih =>
      show Word.ofBytes16 0 0 :: unitsOf (List.replicate (2 * count) 0) = _
      rw [ih]
      rfl

theorem length_flatMap_le16 (us : List UInt16) : (us.flatMap Word.le16).length = 2 * us.length := by
  induction us with
  | nil => rfl
  | cons u us ih =>
      rw [List.flatMap_cons, List.length_append, ih, Word.length_le16, List.length_cons]
      omega

/-- The field has its size, whatever the name. -/
@[simp] theorem length_nameField (name : String) : (nameField name).length = 2 * nameUnits := by
  unfold nameField
  rw [List.length_rightpad, List.length_take]
  omega

@[simp] theorem length_toBytes (r : PartitionRequest) : r.toBytes.length = byteSize := by
  unfold toBytes byteSize
  rw [List.length_append, length_nameField, Word.length_le32]

/-- The units of a name that fits, and the zeros behind them. -/
theorem nameField_eq {name : String}
    (hname : (Utf16.units name.toList).length ≤ nameUnits) :
    nameField name
      = (Utf16.units name.toList).flatMap Word.le16
        ++ List.replicate (2 * (nameUnits - (Utf16.units name.toList).length)) 0 := by
  have hlength := length_flatMap_le16 (Utf16.units name.toList)
  unfold nameField List.rightpad
  rw [List.take_of_length_le (by omega), hlength, Nat.mul_sub]

/-- A name is read up to its first zero character, whatever follows
the request. -/
theorem ofBytes_toBytes_append {r : PartitionRequest}
    (hname : (Utf16.units r.name.toList).length ≤ nameUnits) (rest : Bytes) :
    ofBytes (r.toBytes ++ rest) = .ok { name := nameSeen r.name, size := r.size } := by
  unfold ofBytes toBytes nameSeen
  rw [List.append_assoc, ← length_nameField r.name, List.drop_left, List.take_left]
  show Except.ok (PartitionRequest.mk _ (Word.ofBytes32 _ _ _ _)) = _
  rw [Word.ofBytes32_be32, nameField_eq hname, unitsOf_flatMap_le16_append, unitsOf_zeros,
    Utf16.takeWhile_units_append_zeros, Utf16.lossy_units]

/-- A name without a zero character is read as it was written. -/
theorem ofBytes_toBytes {r : PartitionRequest}
    (hname : (Utf16.units r.name.toList).length ≤ nameUnits) (hzero : '\x00' ∉ r.name.toList) :
    ofBytes r.toBytes = .ok r := by
  rw [← List.append_nil r.toBytes, ofBytes_toBytes_append hname,
    nameSeen_of_not_mem hzero]

/-- A request can be made of a name that is there and fits its field. -/
theorem make_ok_iff (name : String) (size : UInt32) :
    (∃ r, make name size = .ok r) ↔ name ≠ "" ∧ (name.toList.map Utf16.cost).sum ≤ nameUnits := by
  rw [← Utf16.length_units]
  constructor
  · rintro ⟨r, h⟩
    obtain ⟨-, hne, hfits⟩ := eq_of_make h
    refine ⟨?_, hfits⟩
    rintro rfl
    exact hne rfl
  · rintro ⟨hne, hfits⟩
    have hchars : name.toList ≠ [] := fun hnil => hne (String.toList_inj.1 hnil)
    refine ⟨{ name, size }, ?_⟩
    unfold make
    rw [if_neg hchars, if_neg (Nat.not_lt.2 hfits)]

/-- Requests that look alike ask for the same size, and for the same name
as far as a name is read. -/
theorem eq_of_toBytes_eq {r r' : PartitionRequest} (h : r.toBytes = r'.toBytes)
    (hname : (Utf16.units r.name.toList).length ≤ nameUnits)
    (hname' : (Utf16.units r'.name.toList).length ≤ nameUnits) :
    nameSeen r.name = nameSeen r'.name ∧ r.size = r'.size := by
  have hread := ofBytes_toBytes_append hname []
  rw [h, ofBytes_toBytes_append hname' []] at hread
  injection hread with hread
  injection hread with hnames hsizes
  exact ⟨hnames.symm, hsizes.symm⟩

/-- A request is made of every name that is there and takes no more than
thirty-six units. It is laid out in seventy-six bytes and read up to the
first zero character of its name, whatever follows; so it is read as
itself if there is none, and as something else if there is one. Requests
for different sizes look different, and so do requests for different
names without a zero character. -/
theorem make_codec (name : String) (size : UInt32) :
    ((∃ r, make name size = .ok r) ↔ name ≠ "" ∧ (name.toList.map Utf16.cost).sum ≤ 36)
      ∧ ∀ r, make name size = .ok r →
        r.toBytes.length = 76
          ∧ (∀ rest, ofBytes (r.toBytes ++ rest) = .ok { name := nameSeen name, size })
          ∧ (∀ rest, ofBytes (r.toBytes ++ rest) = .ok r ↔ '\x00' ∉ name.toList)
          ∧ ∀ name' size' r', make name' size' = .ok r' →
            size ≠ size' ∨ '\x00' ∉ name.toList ∧ '\x00' ∉ name'.toList ∧ name ≠ name' →
            r.toBytes ≠ r'.toBytes := by
  refine ⟨make_ok_iff name size, fun r hmake => ?_⟩
  obtain ⟨rfl, -, hfits⟩ := eq_of_make hmake
  have hread (rest : Bytes) : ofBytes (toBytes { name, size } ++ rest)
      = .ok { name := nameSeen name, size } :=
    ofBytes_toBytes_append (r := ⟨name, size⟩) hfits rest
  refine ⟨length_toBytes _, hread, fun rest => ?_, ?_⟩
  · rw [hread, ← nameSeen_eq_self_iff]
    constructor
    · intro h
      injection h with h
      injection h
    · intro h
      rw [h]
  · intro name' size' r' hmake' hdiffer halike
    obtain ⟨rfl, -, hfits'⟩ := eq_of_make hmake'
    obtain ⟨hnames, hsizes⟩ := eq_of_toBytes_eq halike hfits hfits'
    rcases hdiffer with hsize | ⟨hzero, hzero', hname⟩
    · exact hsize hsizes
    · rw [nameSeen_of_not_mem hzero, nameSeen_of_not_mem hzero'] at hnames
      exact hname hnames

/-- A name of so many characters outside the basic plane. -/
def pairs (count : Nat) : String := String.ofList (List.replicate count (Char.ofNat 0x1F600))

/-- Eighteen of them fill the field to its end, and one more is too many. -/
theorem make_codec_pairs :
    (∃ r, make (pairs 18) 7 = .ok r ∧ r.toBytes.length = 76
        ∧ ofBytes (r.toBytes ++ [0x7E]) = .ok r)
      ∧ ¬ ∃ r, make (pairs 19) 7 = .ok r := by
  obtain ⟨hmakes, hcodec⟩ := make_codec (pairs 18) 7
  obtain ⟨r, hmake⟩ := hmakes.2 ⟨by decide, by decide⟩
  obtain ⟨hlength, -, hread, -⟩ := hcodec r hmake
  have hzero : '\x00' ∉ (pairs 18).toList := by
    rw [pairs, String.toList_ofList, List.mem_replicate]
    decide
  refine ⟨⟨r, hmake, hlength, (hread [0x7E]).2 hzero⟩, ?_⟩
  rw [(make_codec (pairs 19) 7).1]
  rintro ⟨-, hfits⟩
  exact absurd hfits (by decide)

end PartitionRequest

-- ====================================================== reading a window

namespace ReadRequest

@[simp] theorem length_toBytes (r : ReadRequest) : r.toBytes.length = byteSize := rfl

@[simp] theorem ofBytes_toBytes (r : ReadRequest) : ofBytes r.toBytes = .ok r := by
  show Except.ok (ReadRequest.mk (Word.ofBytes32 _ _ _ _) (Word.ofBytes32 _ _ _ _)) = _
  rw [Word.ofBytes32_be32, Word.ofBytes32_be32]

end ReadRequest

-- ====================================================== loading an image

namespace LoadRequest

@[simp] theorem length_toBytes (r : LoadRequest) : r.toBytes.length = byteSize := rfl

@[simp] theorem ofBytes_toBytes (r : LoadRequest) : ofBytes r.toBytes = .ok r := by
  show Except.ok (LoadRequest.mk (Word.ofBytes32 _ _ _ _) (Word.ofBytes32 _ _ _ _)) = _
  rw [Word.ofBytes32_be32, Word.ofBytes32_be32]

end LoadRequest

end FlashLink
