import Scrutiny.Text.Utf8

/-! Decoding is the inverse of encoding.

A text has one form in bytes, `encode`. Bytes can be decoded just when they are that form of a text, and it is this text
that is decoded (`decode_eq_some_iff`). One character at a time: the first byte tells how many follow, and the bounds on
the second one leave out the forms that are longer than need be, the surrogates and what lies above the last
character. -/
namespace Scrutiny.Text.Utf8

/-- The bytes of a text. -/
def encode (text : List Char) : List UInt8 :=
  text.flatMap String.utf8EncodeChar

theorem following_eq_some_iff {low high : Nat} {b : UInt8} {x : Nat} :
    following low high b = some x ↔ (low ≤ b.toNat ∧ b.toNat ≤ high) ∧ b.toNat % 64 = x := by
  unfold following
  by_cases h : low ≤ b.toNat ∧ b.toNat ≤ high
  · simp [h]
  · have hno : (decide (low ≤ b.toNat) && decide (b.toNat ≤ high)) = false := by simpa using h
    simp [h, hno]

/-! ### Numbers of bytes and characters -/

theorem toNat_byte {n : Nat} (h : n < 256) : (UInt8.ofNat n).toNat = n := by
  rw [UInt8.toNat_ofNat']
  omega

theorem byte_eq {a : UInt8} {n : Nat} (h : n = a.toNat) : UInt8.ofNat n = a := by
  rw [h, UInt8.ofNat_toNat]

theorem val_ofNat {n : Nat} (h : n.isValidChar) : (Char.ofNat n).val.toNat = n := by
  rw [Char.ofNat, dif_pos h]
  rfl

/-! ### What can follow a first byte -/

section Steps
variable {a : UInt8} {rest : List UInt8} {text : List Char}

theorem decode_one_iff (h : a.toNat < 0x80) :
    decode (a :: rest) = some text ↔ ∃ tail, decode rest = some tail ∧ Char.ofNat a.toNat :: tail = text := by
  rw [decode.eq_def]
  simp only [h, if_true, Option.map_eq_some_iff]

theorem decode_two_iff (h : 0xC2 ≤ a.toNat ∧ a.toNat ≤ 0xDF) :
    decode (a :: rest) = some text ↔ ∃ b more tail, rest = b :: more ∧ (0x80 ≤ b.toNat ∧ b.toNat ≤ 0xBF) ∧
      decode more = some tail ∧ Char.ofNat (a.toNat % 32 * 64 + b.toNat % 64) :: tail = text := by
  have hone : ¬ a.toNat < 0x80 := by omega
  rw [decode.eq_def]
  simp only [hone, h, if_false, if_true, decide_true, Bool.and_self]
  cases rest with
  | nil => simp
  | cons b more => simp [following_eq_some_iff, Option.bind_eq_some_iff, and_assoc]

theorem decode_three_iff (h : 0xE0 ≤ a.toNat ∧ a.toNat ≤ 0xEF) :
    decode (a :: rest) = some text ↔ ∃ b c more tail, rest = b :: c :: more ∧
      ((secondOfThree a.toNat).1 ≤ b.toNat ∧ b.toNat ≤ (secondOfThree a.toNat).2) ∧
      (0x80 ≤ c.toNat ∧ c.toNat ≤ 0xBF) ∧ decode more = some tail ∧
      Char.ofNat ((a.toNat % 16 * 64 + b.toNat % 64) * 64 + c.toNat % 64) :: tail = text := by
  have hone : ¬ a.toNat < 0x80 := by omega
  have htwo : ¬ a.toNat ≤ 0xDF := by omega
  rw [decode.eq_def]
  simp only [hone, htwo, h, if_false, if_true, decide_true, decide_false, Bool.and_self, Bool.and_false,
    Bool.false_eq_true]
  rcases rest with _ | ⟨b, _ | ⟨c, more⟩⟩
  · simp
  · simp
  · simp [following_eq_some_iff, Option.bind_eq_some_iff, and_assoc]

theorem decode_four_iff (h : 0xF0 ≤ a.toNat ∧ a.toNat ≤ 0xF4) :
    decode (a :: rest) = some text ↔ ∃ b c d more tail, rest = b :: c :: d :: more ∧
      ((secondOfFour a.toNat).1 ≤ b.toNat ∧ b.toNat ≤ (secondOfFour a.toNat).2) ∧
      (0x80 ≤ c.toNat ∧ c.toNat ≤ 0xBF) ∧ (0x80 ≤ d.toNat ∧ d.toNat ≤ 0xBF) ∧ decode more = some tail ∧
      Char.ofNat (((a.toNat % 8 * 64 + b.toNat % 64) * 64 + c.toNat % 64) * 64 + d.toNat % 64) :: tail = text := by
  have hone : ¬ a.toNat < 0x80 := by omega
  have htwo : ¬ a.toNat ≤ 0xDF := by omega
  have hthree : ¬ a.toNat ≤ 0xEF := by omega
  rw [decode.eq_def]
  simp only [hone, htwo, hthree, h, if_false, if_true, decide_true, decide_false, Bool.and_self, Bool.and_false,
    Bool.false_eq_true]
  rcases rest with _ | ⟨b, _ | ⟨c, _ | ⟨d, more⟩⟩⟩
  · simp
  · simp
  · simp
  · simp [following_eq_some_iff, Option.bind_eq_some_iff, and_assoc]

/-- The bounds on the second of three bytes, as numbers. -/
theorem secondOfThree_iff {first second : Nat} (h : 0xE0 ≤ first ∧ first ≤ 0xEF) :
    (secondOfThree first).1 ≤ second ∧ second ≤ (secondOfThree first).2 ↔
      (0x80 ≤ second ∧ second ≤ 0xBF) ∧ 0x20 ≤ first % 16 * 64 + second % 64 ∧
        ¬ (0x360 ≤ first % 16 * 64 + second % 64 ∧ first % 16 * 64 + second % 64 < 0x380) := by
  unfold secondOfThree
  split
  · omega
  · split
    · omega
    · omega

/-- The bounds on the second of four bytes, as numbers. -/
theorem secondOfFour_iff {first second : Nat} (h : 0xF0 ≤ first ∧ first ≤ 0xF4) :
    (secondOfFour first).1 ≤ second ∧ second ≤ (secondOfFour first).2 ↔
      (0x80 ≤ second ∧ second ≤ 0xBF) ∧ 0x10 ≤ first % 8 * 64 + second % 64 ∧
        first % 8 * 64 + second % 64 < 0x110 := by
  unfold secondOfFour
  split
  · omega
  · split
    · omega
    · omega

end Steps

/-! ### One character -/

section Characters
variable {a b c d : UInt8}

theorem encodeChar_one (h : a.toNat < 0x80) : String.utf8EncodeChar (Char.ofNat a.toNat) = [a] := by
  have hval := val_ofNat (n := a.toNat) (.inl (by omega))
  unfold String.utf8EncodeChar
  simp only [hval]
  rw [if_pos (by omega), byte_eq rfl]

theorem encodeChar_two (ha : 0xC2 ≤ a.toNat ∧ a.toNat ≤ 0xDF) (hb : 0x80 ≤ b.toNat ∧ b.toNat ≤ 0xBF) :
    String.utf8EncodeChar (Char.ofNat (a.toNat % 32 * 64 + b.toNat % 64)) = [a, b] := by
  have hval := val_ofNat (n := a.toNat % 32 * 64 + b.toNat % 64) (.inl (by omega))
  unfold String.utf8EncodeChar
  simp only [hval]
  rw [if_neg (by omega), if_pos (by omega), byte_eq (a := a) (by omega), byte_eq (a := b) (by omega)]

theorem encodeChar_three (ha : 0xE0 ≤ a.toNat ∧ a.toNat ≤ 0xEF)
    (hb : (secondOfThree a.toNat).1 ≤ b.toNat ∧ b.toNat ≤ (secondOfThree a.toNat).2)
    (hc : 0x80 ≤ c.toNat ∧ c.toNat ≤ 0xBF) :
    String.utf8EncodeChar (Char.ofNat ((a.toNat % 16 * 64 + b.toNat % 64) * 64 + c.toNat % 64)) = [a, b, c] := by
  have hsecond := (secondOfThree_iff ha).mp hb
  have hvalid : ((a.toNat % 16 * 64 + b.toNat % 64) * 64 + c.toNat % 64).isValidChar := by
    unfold Nat.isValidChar
    omega
  have hval := val_ofNat hvalid
  unfold String.utf8EncodeChar
  simp only [hval]
  rw [if_neg (by omega), if_neg (by omega), if_pos (by omega), byte_eq (a := a) (by omega),
    byte_eq (a := b) (by omega), byte_eq (a := c) (by omega)]

theorem encodeChar_four (ha : 0xF0 ≤ a.toNat ∧ a.toNat ≤ 0xF4)
    (hb : (secondOfFour a.toNat).1 ≤ b.toNat ∧ b.toNat ≤ (secondOfFour a.toNat).2)
    (hc : 0x80 ≤ c.toNat ∧ c.toNat ≤ 0xBF) (hd : 0x80 ≤ d.toNat ∧ d.toNat ≤ 0xBF) :
    String.utf8EncodeChar
      (Char.ofNat (((a.toNat % 8 * 64 + b.toNat % 64) * 64 + c.toNat % 64) * 64 + d.toNat % 64)) = [a, b, c, d] := by
  have hsecond := (secondOfFour_iff ha).mp hb
  have hvalid : (((a.toNat % 8 * 64 + b.toNat % 64) * 64 + c.toNat % 64) * 64 + d.toNat % 64).isValidChar := by
    unfold Nat.isValidChar
    omega
  have hval := val_ofNat hvalid
  unfold String.utf8EncodeChar
  simp only [hval]
  rw [if_neg (by omega), if_neg (by omega), if_neg (by omega), byte_eq (a := a) (by omega),
    byte_eq (a := b) (by omega), byte_eq (a := c) (by omega), byte_eq (a := d) (by omega)]

end Characters

/-- Bytes that can be decoded start with those of a character. -/
theorem of_decode_cons {a : UInt8} {rest : List UInt8} {text : List Char} (h : decode (a :: rest) = some text) :
    ∃ c tail more, text = c :: tail ∧ String.utf8EncodeChar c ++ more = a :: rest ∧ decode more = some tail := by
  by_cases hone : a.toNat < 0x80
  · obtain ⟨tail, htail, rfl⟩ := (decode_one_iff hone).mp h
    exact ⟨_, tail, rest, rfl, by rw [encodeChar_one hone]; rfl, htail⟩
  by_cases htwo : 0xC2 ≤ a.toNat ∧ a.toNat ≤ 0xDF
  · obtain ⟨b, more, tail, rfl, hb, htail, rfl⟩ := (decode_two_iff htwo).mp h
    exact ⟨_, tail, more, rfl, by rw [encodeChar_two htwo hb]; rfl, htail⟩
  by_cases hthree : 0xE0 ≤ a.toNat ∧ a.toNat ≤ 0xEF
  · obtain ⟨b, c, more, tail, rfl, hb, hc, htail, rfl⟩ := (decode_three_iff hthree).mp h
    exact ⟨_, tail, more, rfl, by rw [encodeChar_three hthree hb hc]; rfl, htail⟩
  by_cases hfour : 0xF0 ≤ a.toNat ∧ a.toNat ≤ 0xF4
  · obtain ⟨b, c, d, more, tail, rfl, hb, hc, hd, htail, rfl⟩ := (decode_four_iff hfour).mp h
    exact ⟨_, tail, more, rfl, by rw [encodeChar_four hfour hb hc hd]; rfl, htail⟩
  · rw [decode.eq_def] at h
    simp [hone, htwo, hthree, hfour] at h

/-- A character is decoded from its bytes. -/
theorem decode_encodeChar_append (c : Char) {more : List UInt8} {tail : List Char} (h : decode more = some tail) :
    decode (String.utf8EncodeChar c ++ more) = some (c :: tail) := by
  have hvalid : c.val.toNat.isValidChar := c.valid
  have hback : Char.ofNat c.val.toNat = c := Char.ofNat_toNat c
  unfold Nat.isValidChar at hvalid
  unfold String.utf8EncodeChar
  -- From here on only the number of the character counts.
  generalize c.val.toNat = v at hvalid hback ⊢
  subst hback
  simp only
  split
  · have ha := toNat_byte (n := v) (by omega)
    refine (decode_one_iff (by omega)).mpr ⟨tail, h, by rw [ha]⟩
  split
  · have ha := toNat_byte (n := v / 64 % 32 + 192) (by omega)
    have hb := toNat_byte (n := v % 64 + 128) (by omega)
    refine (decode_two_iff (by omega)).mpr ⟨_, more, tail, rfl, by omega, h, ?_⟩
    rw [ha, hb]
    congr 2
    omega
  split
  · have ha := toNat_byte (n := v / 4096 % 16 + 224) (by omega)
    have hb := toNat_byte (n := v / 64 % 64 + 128) (by omega)
    have hc := toNat_byte (n := v % 64 + 128) (by omega)
    have hfirst : 0xE0 ≤ (UInt8.ofNat (v / 4096 % 16 + 224)).toNat ∧
        (UInt8.ofNat (v / 4096 % 16 + 224)).toNat ≤ 0xEF := by omega
    refine (decode_three_iff hfirst).mpr
      ⟨_, _, more, tail, rfl, (secondOfThree_iff hfirst).mpr (by omega), by omega, h, ?_⟩
    rw [ha, hb, hc]
    congr 2
    omega
  · have ha := toNat_byte (n := v / 262144 % 8 + 240) (by omega)
    have hb := toNat_byte (n := v / 4096 % 64 + 128) (by omega)
    have hc := toNat_byte (n := v / 64 % 64 + 128) (by omega)
    have hd := toNat_byte (n := v % 64 + 128) (by omega)
    have hfirst : 0xF0 ≤ (UInt8.ofNat (v / 262144 % 8 + 240)).toNat ∧
        (UInt8.ofNat (v / 262144 % 8 + 240)).toNat ≤ 0xF4 := by omega
    refine (decode_four_iff hfirst).mpr
      ⟨_, _, _, more, tail, rfl, (secondOfFour_iff hfirst).mpr (by omega), by omega, by omega, h, ?_⟩
    rw [ha, hb, hc, hd]
    congr 2
    omega

/-- A byte below all that come in company stands for the character of its number. -/
theorem toNat_of_mem_encodeChar {b : UInt8} (h : b.toNat < 0x80) {c : Char} (hb : b ∈ String.utf8EncodeChar c) :
    c.toNat = b.toNat := by
  show c.val.toNat = b.toNat
  unfold String.utf8EncodeChar at hb
  generalize c.val.toNat = v at hb ⊢
  simp only at hb
  -- Where there is more than one byte, none of them is so low.
  have hhigh {n : Nat} (hlow : 0x80 ≤ n) (hn : n < 256) : b ≠ UInt8.ofNat n := by
    rintro rfl
    rw [toNat_byte hn] at h
    omega
  split at hb
  · rw [List.mem_singleton.mp hb, toNat_byte (by omega)]
  split at hb
  · simp only [List.mem_cons, List.not_mem_nil, or_false] at hb
    rcases hb with hb | hb <;> exact absurd hb (hhigh (by omega) (by omega))
  split at hb
  · simp only [List.mem_cons, List.not_mem_nil, or_false] at hb
    rcases hb with hb | hb | hb <;> exact absurd hb (hhigh (by omega) (by omega))
  · simp only [List.mem_cons, List.not_mem_nil, or_false] at hb
    rcases hb with hb | hb | hb | hb <;> exact absurd hb (hhigh (by omega) (by omega))

/-! ### Texts -/

/-- Decoding is the inverse of encoding. -/
theorem decode_eq_some_iff {bytes : List UInt8} {text : List Char} :
    decode bytes = some text ↔ encode text = bytes := by
  constructor
  · intro h
    induction text generalizing bytes with
    | nil =>
      cases bytes with
      | nil => rfl
      | cons a rest =>
        obtain ⟨_, _, _, htext, _⟩ := of_decode_cons h
        cases htext
    | cons c tail ih =>
      cases bytes with
      | nil => simp [decode] at h
      | cons a rest =>
        obtain ⟨_, _, more, htext, hbytes, hmore⟩ := of_decode_cons h
        cases htext
        rw [← hbytes, ← ih hmore]
        rfl
  · rintro rfl
    induction text with
    | nil => simp [encode, decode]
    | cons c tail ih => exact decode_encodeChar_append c ih

theorem encode_injective {first second : List Char} (h : encode first = encode second) : first = second :=
  Option.some.inj ((decode_eq_some_iff.mpr h).symm.trans (decode_eq_some_iff.mpr rfl))

/-- Only the characters at the start of a text have bytes at the start of its bytes. -/
theorem encode_prefix_iff {first whole : List Char} : encode first <+: encode whole ↔ first <+: whole := by
  constructor
  · rintro ⟨rest, hrest⟩
    have hbytes : first.utf8Encode ++ rest.toByteArray = whole.utf8Encode := by
      rw [List.utf8Encode, List.utf8Encode, ← List.toByteArray_append]
      exact congrArg List.toByteArray hrest
    exact List.isPrefix_of_utf8Encode_append_eq_utf8Encode _ hbytes
  · rintro ⟨rest, rfl⟩
    exact ⟨encode rest, List.flatMap_append.symm⟩

end Scrutiny.Text.Utf8
