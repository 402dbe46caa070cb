import Mathlib.Data.List.Basic
import Mathlib.Data.List.TakeWhile
import ReferenceAudit.Text.Utf8

/-!
# Texts as bytes and back

The bytes of a character are read as that character, whatever comes after them, so a text is read back from its
bytes. Nothing else is read as a character: a first byte leaves those after it just the ranges in which they
spell one, and spell it in the one way. Main statement: the bytes that are read as a text are those of the text.
-/
namespace ReferenceAudit.Text.Utf8

/-- A first byte and the bytes after it that are read as a character. -/
structure Spells (c : Char) (first : UInt8) (run : List UInt8) : Prop where
  owed : owed first = some run.length
  second : ∀ b ∈ run.head?, isSecond first b = true
  tail : ∀ b ∈ run, isTail b = true
  code : codePoint (leadBits first run.length) run = c.toNat

theorem tails_append {first : UInt8} {run : List UInt8} (hs : ∀ b ∈ run.head?, isSecond first b = true)
    (ht : ∀ b ∈ run, isTail b = true) (rest : List UInt8) : tails first run.length (run ++ rest) = run := by
  cases run with
  | nil => cases rest <;> simp [tails]
  | cons b run =>
    have htake : ((run ++ rest).takeWhile isTail).take run.length = run := by
      rw [List.takeWhile_append_of_pos fun x hx => ht x (List.mem_cons_of_mem _ hx)]
      exact List.take_left
    have hb : isSecond first b = true := hs b rfl
    simp [tails, hb, htake]

theorem Spells.piece_eq {c : Char} {first : UInt8} {run : List UInt8} (h : Spells c first run) (position : Nat)
    (rest : List UInt8) : piece position first (run ++ rest) = (.char c, run.length) := by
  have htails : tails first run.length (run ++ rest) = run := tails_append h.second h.tail rest
  have hchar : Char.ofNat (codePoint (leadBits first run.length) run) = c := by rw [h.code, Char.ofNat_toNat]
  simp [piece, h.owed, htails, hchar]

private theorem toNat_ofNat_of_lt {n : Nat} (h : n < 256) : (UInt8.ofNat n).toNat = n := by
  rw [UInt8.toNat_ofNat']
  omega

private theorem toNat_tailByte (n : Nat) : (tailByte n).toNat = 0x80 + n % 0x40 := toNat_ofNat_of_lt (by omega)

private theorem isTail_tailByte (n : Nat) : isTail (tailByte n) = true := by
  simp [isTail, toNat_tailByte]
  omega

section
variable {c : Char}

theorem spells_one (hhigh : c.toNat < 0x80) : Spells c (UInt8.ofNat c.toNat) [] := by
  have hfirst : (UInt8.ofNat c.toNat).toNat = c.toNat := toNat_ofNat_of_lt (by omega)
  generalize UInt8.ofNat c.toNat = first at *
  refine ⟨?_, by simp, by simp, ?_⟩
  · simp only [owed, hfirst]
    rw [if_pos (by omega)]
    rfl
  · simp [codePoint, leadBits, hfirst]

theorem spells_two (hlow : 0x80 ≤ c.toNat) (hhigh : c.toNat < 0x800) :
    Spells c (UInt8.ofNat (0xC0 + c.toNat / 0x40)) [tailByte c.toNat] := by
  have hfirst : (UInt8.ofNat (0xC0 + c.toNat / 0x40)).toNat = 0xC0 + c.toNat / 0x40 := toNat_ofNat_of_lt (by omega)
  generalize UInt8.ofNat (0xC0 + c.toNat / 0x40) = first at *
  refine ⟨?_, ?_, by simp [isTail_tailByte], ?_⟩
  · simp only [owed, hfirst]
    rw [if_neg (by omega), if_pos (by omega)]
    rfl
  · simp [isSecond, isTail_tailByte, hfirst]
    omega
  · simp [codePoint, leadBits, hfirst, toNat_tailByte]
    omega

theorem spells_three (hlow : 0x800 ≤ c.toNat) (hhigh : c.toNat < 0x10000) :
    Spells c (UInt8.ofNat (0xE0 + c.toNat / 0x1000)) [tailByte (c.toNat / 0x40), tailByte c.toNat] := by
  have hvalid : c.toNat < 0xD800 ∨ (0xDFFF < c.toNat ∧ c.toNat < 0x110000) := c.valid
  have hfirst : (UInt8.ofNat (0xE0 + c.toNat / 0x1000)).toNat = 0xE0 + c.toNat / 0x1000 :=
    toNat_ofNat_of_lt (by omega)
  generalize UInt8.ofNat (0xE0 + c.toNat / 0x1000) = first at *
  refine ⟨?_, ?_, by simp [isTail_tailByte], ?_⟩
  · simp only [owed, hfirst]
    rw [if_neg (by omega), if_neg (by omega), if_pos (by omega)]
    rfl
  · simp [isSecond, isTail_tailByte, hfirst, toNat_tailByte]
    omega
  · simp [codePoint, leadBits, hfirst, toNat_tailByte]
    omega

theorem spells_four (hlow : 0x10000 ≤ c.toNat) : Spells c (UInt8.ofNat (0xF0 + c.toNat / 0x40000))
    [tailByte (c.toNat / 0x1000), tailByte (c.toNat / 0x40), tailByte c.toNat] := by
  have hvalid : c.toNat < 0xD800 ∨ (0xDFFF < c.toNat ∧ c.toNat < 0x110000) := c.valid
  have hfirst : (UInt8.ofNat (0xF0 + c.toNat / 0x40000)).toNat = 0xF0 + c.toNat / 0x40000 :=
    toNat_ofNat_of_lt (by omega)
  generalize UInt8.ofNat (0xF0 + c.toNat / 0x40000) = first at *
  refine ⟨?_, ?_, by simp [isTail_tailByte], ?_⟩
  · simp only [owed, hfirst]
    rw [if_neg (by omega), if_neg (by omega), if_neg (by omega), if_pos (by omega)]
    rfl
  · simp [isSecond, isTail_tailByte, hfirst, toNat_tailByte]
    omega
  · simp [codePoint, leadBits, hfirst, toNat_tailByte]
    omega

end

theorem exists_spells (c : Char) : ∃ first run, encodeChar c = first :: run ∧ Spells c first run := by
  simp only [encodeChar]
  split
  · exact ⟨_, _, rfl, spells_one ‹_›⟩
  split
  · exact ⟨_, _, rfl, spells_two (by omega) ‹_›⟩
  split
  · exact ⟨_, _, rfl, spells_three (by omega) ‹_›⟩
  · exact ⟨_, _, rfl, spells_four (by omega)⟩

theorem scan_encodeChar (position : Nat) (c : Char) (rest : List UInt8) :
    ∃ next, scan position (encodeChar c ++ rest) = .char c :: scan next rest := by
  obtain ⟨first, run, hbytes, hspells⟩ := exists_spells c
  refine ⟨position + 1 + run.length, ?_⟩
  rw [hbytes, List.cons_append, scan, hspells.piece_eq, List.drop_left]

theorem strict_scan_flatMap (position : Nat) (cs : List Char) :
    strict (scan position (cs.flatMap encodeChar)) = .ok cs := by
  induction cs generalizing position with
  | nil => simp [scan, strict]
  | cons c cs ih =>
    obtain ⟨next, hscan⟩ := scan_encodeChar position c (cs.flatMap encodeChar)
    rw [List.flatMap_cons, hscan, strict, ih]
    rfl

theorem decode_encode (s : String) : decode (encode s) = .ok s := by
  rw [decode, encode, strict_scan_flatMap]
  simp [Except.map]

theorem lenient_scan_flatMap (position : Nat) (cs : List Char) :
    (scan position (cs.flatMap encodeChar)).map Piece.lenient = cs := by
  induction cs generalizing position with
  | nil => simp [scan]
  | cons c cs ih =>
    obtain ⟨next, hscan⟩ := scan_encodeChar position c (cs.flatMap encodeChar)
    rw [List.flatMap_cons, hscan, List.map_cons, ih, Piece.lenient]

theorem decodeLenient_encode (s : String) : decodeLenient (encode s) = s := by
  rw [decodeLenient, encode, lenient_scan_flatMap, String.ofList_toList]

theorem encode_inj {s t : String} : encode s = encode t ↔ s = t := by
  constructor
  · intro h
    have hdecode := decode_encode s
    rw [h, decode_encode] at hdecode
    exact (Except.ok.inj hdecode).symm
  · rintro rfl
    rfl

/-- A first byte and the bytes after it, by the ranges that the ways of spelling a character leave them. -/
inductive Ranges (first : UInt8) : List UInt8 → Prop
  | one (hfirst : first.toNat < 0x80) : Ranges first []
  | two {b : UInt8} (hfirst : 0xC2 ≤ first.toNat ∧ first.toNat ≤ 0xDF) (hb : 0x80 ≤ b.toNat ∧ b.toNat ≤ 0xBF) :
    Ranges first [b]
  | three {b b' : UInt8} (hfirst : 0xE0 ≤ first.toNat ∧ first.toNat ≤ 0xEF) (hb : 0x80 ≤ b.toNat ∧ b.toNat ≤ 0xBF)
    (hb' : 0x80 ≤ b'.toNat ∧ b'.toNat ≤ 0xBF) (overlong : first.toNat = 0xE0 → 0xA0 ≤ b.toNat)
    (surrogate : first.toNat = 0xED → b.toNat ≤ 0x9F) : Ranges first [b, b']
  | four {b b' b'' : UInt8} (hfirst : 0xF0 ≤ first.toNat ∧ first.toNat ≤ 0xF4)
      (hb : 0x80 ≤ b.toNat ∧ b.toNat ≤ 0xBF)
    (hb' : 0x80 ≤ b'.toNat ∧ b'.toNat ≤ 0xBF) (hb'' : 0x80 ≤ b''.toNat ∧ b''.toNat ≤ 0xBF)
    (overlong : first.toNat = 0xF0 → 0x90 ≤ b.toNat) (above : first.toNat = 0xF4 → b.toNat ≤ 0x8F) :
    Ranges first [b, b', b'']

theorem ranges_of_owed {first : UInt8} {run : List UInt8} (howed : owed first = some run.length)
    (hsecond : ∀ b ∈ run.head?, isSecond first b = true) (htail : ∀ b ∈ run, isTail b = true) :
    Ranges first run := by
  have hrange (b : UInt8) (hb : b ∈ run) : 0x80 ≤ b.toNat ∧ b.toNat ≤ 0xBF := by simpa [isTail] using htail b hb
  have hnarrow (b : UInt8) (hb : b ∈ run.head?) : (first.toNat = 0xE0 → 0xA0 ≤ b.toNat) ∧
      (first.toNat = 0xED → b.toNat ≤ 0x9F) ∧ (first.toNat = 0xF0 → 0x90 ≤ b.toNat) ∧
      (first.toNat = 0xF4 → b.toNat ≤ 0x8F) := by
    have hboth := hsecond b hb
    simp [isSecond] at hboth
    omega
  simp only [owed] at howed
  split at howed
  · obtain rfl : run = [] := List.length_eq_zero_iff.1 (Option.some.inj howed).symm
    exact .one ‹_›
  split at howed
  · obtain ⟨b, rfl⟩ := List.length_eq_one_iff.1 (Option.some.inj howed).symm
    exact .two ‹_› (hrange b (by simp))
  split at howed
  · obtain ⟨b, b', rfl⟩ := List.length_eq_two.1 (Option.some.inj howed).symm
    obtain ⟨hlong, hsurrogate, -, -⟩ := hnarrow b rfl
    exact .three ‹_› (hrange b (by simp)) (hrange b' (by simp)) hlong hsurrogate
  split at howed
  · obtain ⟨b, b', b'', rfl⟩ := List.length_eq_three.1 (Option.some.inj howed).symm
    obtain ⟨-, -, hlong, habove⟩ := hnarrow b rfl
    exact .four ‹_› (hrange b (by simp)) (hrange b' (by simp)) (hrange b'' (by simp)) hlong habove
  · cases howed

theorem Ranges.isValidChar {first : UInt8} {run : List UInt8} (h : Ranges first run) :
    (codePoint (leadBits first run.length) run).isValidChar := by
  cases h <;> simp [codePoint, leadBits, Nat.isValidChar] <;> omega

theorem Ranges.encodeChar_eq {first : UInt8} {run : List UInt8} (h : Ranges first run) {c : Char}
    (hc : c.toNat = codePoint (leadBits first run.length) run) : encodeChar c = first :: run := by
  have hbyte (b : UInt8) {n : Nat} (hn : n = b.toNat) : UInt8.ofNat n = b := by rw [hn, UInt8.ofNat_toNat]
  simp only [encodeChar, hc, tailByte]
  cases h with
  | one hfirst =>
    simp only [codePoint, leadBits, List.length_nil, List.foldl_nil]
    rw [if_pos hfirst, hbyte first rfl]
  | @two b hfirst hb =>
    simp only [codePoint, leadBits, List.length_cons, List.length_nil, List.foldl_cons, List.foldl_nil]
    rw [if_neg (by omega), if_pos (by omega), hbyte first (by omega), hbyte b (by omega)]
  | @three b b' hfirst hb hb' hlong hsurrogate =>
    simp only [codePoint, leadBits, List.length_cons, List.length_nil, List.foldl_cons, List.foldl_nil]
    rw [if_neg (by omega), if_neg (by omega), if_pos (by omega), hbyte first (by omega), hbyte b (by omega),
      hbyte b' (by omega)]
  | @four b b' b'' hfirst hb hb' hb'' hlong habove =>
    simp only [codePoint, leadBits, List.length_cons, List.length_nil, List.foldl_cons, List.foldl_nil]
    rw [if_neg (by omega), if_neg (by omega), if_neg (by omega), hbyte first (by omega), hbyte b (by omega),
      hbyte b' (by omega), hbyte b'' (by omega)]

theorem tails_spec (first : UInt8) (count : Nat) (rest : List UInt8) :
    tails first count rest <+: rest ∧ (∀ b ∈ (tails first count rest).head?, isSecond first b = true) ∧
      ∀ b ∈ tails first count rest, isTail b = true := by
  cases rest with
  | nil => simp [tails]
  | cons b bs =>
    rw [tails]
    split
    · rename_i h
      have htail : isTail b = true := by
        have hsecond := h.2
        simp only [isSecond, Bool.and_eq_true] at hsecond
        exact hsecond.1.1.1.1
      have hprefix : (bs.takeWhile isTail).take (count - 1) <+: bs :=
        (List.take_prefix _ _).trans (List.takeWhile_prefix _)
      refine ⟨List.cons_prefix_cons.2 ⟨rfl, hprefix⟩, by simpa using h.2, ?_⟩
      intro x hx
      rcases List.mem_cons.1 hx with rfl | hx
      · exact htail
      · exact List.mem_takeWhile_imp (List.mem_of_mem_take hx)
    · simp

theorem encodeChar_of_piece {position : Nat} {first : UInt8} {rest : List UInt8} {c : Char} {taken : Nat}
    (h : piece position first rest = (.char c, taken)) : first :: rest = encodeChar c ++ rest.drop taken := by
  rw [piece] at h
  split at h
  · cases h
  · rename_i count howed
    dsimp only at h
    split at h
    · rename_i hlength
      obtain ⟨⟨after, hrest⟩, hsecond, htail⟩ := tails_spec first count rest
      generalize tails first count rest = run at *
      subst hlength
      cases h
      have hranges : Ranges first run := ranges_of_owed howed hsecond htail
      have hchar : (Char.ofNat (codePoint (leadBits first run.length) run)).toNat =
          codePoint (leadBits first run.length) run := by
        rw [Char.ofNat, dif_pos hranges.isValidChar]
        rfl
      rw [hranges.encodeChar_eq hchar, ← hrest, List.drop_left, List.cons_append]
    · cases h

theorem exists_of_strict_cons {p : Piece} {ps : List Piece} {cs : List Char} (h : strict (p :: ps) = .ok cs) :
    ∃ c ds, p = .char c ∧ strict ps = .ok ds ∧ cs = c :: ds := by
  cases p with
  | bad fault => cases h
  | char c =>
    rw [strict] at h
    cases hds : strict ps with
    | error fault =>
      rw [hds] at h
      cases h
    | ok ds =>
      rw [hds] at h
      cases h
      exact ⟨c, ds, rfl, rfl, rfl⟩

theorem flatMap_of_strict_scan {position : Nat} {bytes : List UInt8} {cs : List Char}
    (h : strict (scan position bytes) = .ok cs) : bytes = cs.flatMap encodeChar := by
  fun_induction scan position bytes generalizing cs with
  | case1 position =>
    cases h
    rfl
  | case2 position first rest p =>
    rename_i ih
    obtain ⟨c, ds, hc, hds, rfl⟩ := exists_of_strict_cons h
    have hpiece : piece position first rest = (.char c, p.2) := Prod.ext hc rfl
    rw [encodeChar_of_piece hpiece, List.flatMap_cons, ← ih hds]

theorem decode_eq_ok_iff {bytes : List UInt8} {s : String} : decode bytes = .ok s ↔ bytes = encode s := by
  constructor
  · intro h
    rw [decode] at h
    cases hcs : strict (scan 0 bytes) with
    | error fault =>
      rw [hcs] at h
      cases h
    | ok cs =>
      rw [hcs] at h
      cases h
      rw [encode, String.toList_ofList]
      exact flatMap_of_strict_scan hcs
  · rintro rfl
    exact decode_encode s

end ReferenceAudit.Text.Utf8
