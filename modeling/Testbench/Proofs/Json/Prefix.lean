import Testbench.Json.Document
import Testbench.Proofs.Json.Simulation

/-!
# Where strict errors are

An error of the strict reader is at the first byte with which no document goes on: what stands in
front of it is the beginning of a document, and with that byte it is not.

* `bytes`, `exists_cons_of_bytes` : texts that begin with the same bytes.
* `Automaton.read_ok_iff` : a text can be read exactly if the automaton accepts it.
* `Document.error_first` : **the offset of an error is that of the first byte that is wrong.**
-/

set_option autoImplicit false

namespace Testbench.Json

open Cursor (Spans)

/-! ## Bytes -/

/-- The bytes of a text. -/
def bytes (s : String) : List UInt8 := s.toUTF8.data.toList

theorem bytes_eq (s : String) : bytes s = s.toList.flatMap String.utf8EncodeChar := by
  rw [bytes, String.toUTF8_eq_toByteArray, ← String.utf8Encode_toList, List.utf8Encode,
    List.toList_data_toByteArray]

theorem length_flatMap_utf8EncodeChar (s : List Char) :
    (s.flatMap String.utf8EncodeChar).length = byteLength s := by
  induction s with
  | nil => rfl
  | cons c s ih =>
    rw [List.flatMap_cons, List.length_append, String.length_utf8EncodeChar, ih, byteLength]

theorem byteLength_toList (s : String) : byteLength s.toList = s.utf8ByteSize := by
  rw [← length_flatMap_utf8EncodeChar, ← bytes_eq, bytes, String.toUTF8_eq_toByteArray,
    ← String.size_toByteArray]
  rfl

theorem exists_utf8EncodeChar (c : Char) : ∃ b t, String.utf8EncodeChar c = b :: t := by
  refine List.exists_cons_of_ne_nil fun hnil => ?_
  have hlength := String.length_utf8EncodeChar c
  have hpos := c.utf8Size_pos
  rw [hnil, List.length_nil] at hlength
  omega

/-- Characters that begin with the same byte. -/
def SameStart (c d : Char) : Prop := c = d ∨ (c.utf8Size ≠ 1 ∧ d.utf8Size ≠ 1)

/-- Only characters of one byte begin with a byte below 128. -/
theorem utf8EncodeChar_of_size_ne_one {c : Char} (h : c.utf8Size ≠ 1) {b : UInt8} {t : List UInt8}
    (hc : String.utf8EncodeChar c = b :: t) : 128 ≤ b.toNat := by
  have hor : ∀ x y : UInt8, 128 ≤ y.toNat → 128 ≤ (x ||| y).toNat := by
    intro x y hy
    rw [UInt8.toNat_or]
    exact Nat.le_trans hy Nat.right_le_or
  have hpos := c.utf8Size_pos
  have hle := c.utf8Size_le_four
  have hsize : c.utf8Size = 2 ∨ c.utf8Size = 3 ∨ c.utf8Size = 4 := by omega
  rcases hsize with hs | hs | hs
  · rw [String.utf8EncodeChar_eq_cons_cons hs] at hc
    cases hc
    exact hor _ _ (by decide)
  · rw [String.utf8EncodeChar_eq_cons_cons_cons hs] at hc
    cases hc
    exact hor _ _ (by decide)
  · rw [String.utf8EncodeChar_eq_cons_cons_cons_cons hs] at hc
    cases hc
    exact hor _ _ (by decide)

theorem sameStart_of_head {c d : Char} {b : UInt8} {t u : List UInt8}
    (hc : String.utf8EncodeChar c = b :: t) (hd : String.utf8EncodeChar d = b :: u) :
    SameStart c d := by
  have hsmall : ∀ {c : Char} {t : List UInt8}, c.utf8Size = 1 →
      String.utf8EncodeChar c = b :: t → b.toNat = c.toNat ∧ b.toNat < 128 := by
    intro c t hs hc
    rw [String.utf8EncodeChar_eq_singleton hs] at hc
    cases hc
    have hle : c.val.toNat ≤ 127 := by
      rw [Char.utf8Size_eq_one_iff, UInt32.le_iff_toNat_le] at hs
      exact hs
    have hval : c.val.toUInt8.toNat = c.val.toNat % 256 := UInt32.toNat_toUInt8 c.val
    have hnat : c.toNat = c.val.toNat := rfl
    omega
  by_cases hsc : c.utf8Size = 1
  · have hbc := hsmall hsc hc
    by_cases hsd : d.utf8Size = 1
    · have hbd := hsmall hsd hd
      exact .inl (Char.toNat_inj.mp (hbc.1.symm.trans hbd.1))
    · have hbd := utf8EncodeChar_of_size_ne_one hsd hd
      omega
  · by_cases hsd : d.utf8Size = 1
    · have hbc := utf8EncodeChar_of_size_ne_one hsc hc
      have hbd := hsmall hsd hd
      omega
    · exact .inr ⟨hsc, hsd⟩

/-- What has the bytes of a text and the first byte of a character has that text in front, and a
character with this first byte behind it. -/
theorem exists_cons_of_bytes {s rest w : List Char} {c : Char}
    (h : ((s ++ c :: rest).flatMap String.utf8EncodeChar).take (byteLength s + 1) <+:
      w.flatMap String.utf8EncodeChar) :
    ∃ d w', w = s ++ d :: w' ∧ SameStart c d := by
  obtain ⟨b, t, hc⟩ := exists_utf8EncodeChar c
  have htake : ((s ++ c :: rest).flatMap String.utf8EncodeChar).take (byteLength s + 1) =
      s.flatMap String.utf8EncodeChar ++ [b] := by
    rw [List.flatMap_append, ← length_flatMap_utf8EncodeChar, List.take_length_add_append,
      List.flatMap_cons, hc]
    rfl
  rw [htake] at h
  obtain ⟨more, hmore⟩ := h
  rw [List.append_assoc] at hmore
  have hprefix : s <+: w := by
    refine List.isPrefix_of_utf8Encode_append_eq_utf8Encode ([b] ++ more).toByteArray ?_
    rw [List.utf8Encode, List.utf8Encode, ← List.toByteArray_append, hmore]
  obtain ⟨w', rfl⟩ := hprefix
  rw [List.flatMap_append, List.append_cancel_left_eq] at hmore
  cases w' with
  | nil => cases hmore
  | cons d w' =>
    obtain ⟨b', u, hd⟩ := exists_utf8EncodeChar d
    rw [List.flatMap_cons, hd] at hmore
    cases hmore
    exact ⟨d, w', rfl, sameStart_of_head hc hd⟩

/-! ## What the automaton accepts -/

namespace Automaton

variable {source s : List Char} {q : State}

/-- A text can be read exactly if the automaton accepts it. -/
theorem read_ok_iff :
    (∃ root, read .strict source = .ok root) ↔
      ∃ r, State.start.run? source = some r ∧ r.final = true := by
  have hfollows := follows_read source
  cases hread : read .strict source with
  | ok root =>
    rw [hread] at hfollows
    obtain ⟨t, r, ht, hrun, halike⟩ := hfollows
    have hsource : source = t := by
      have hall := ht.1
      rw [List.append_nil] at hall
      exact hall
    rw [← hsource] at hrun
    exact iff_of_true ⟨root, rfl⟩ ⟨r, hrun, halike.final_eq⟩
  | error e =>
    rw [hread] at hfollows
    obtain ⟨t, p, r, ht, hrun, hblames⟩ := hfollows
    have hsource : source = t ++ p.rest := ht.1
    have hstuck := hblames.stuck
    refine iff_of_false (fun h => nomatch h) ?_
    rintro ⟨r', hrun', hfinal⟩
    rw [hsource, State.run?_append, hrun, Option.bind_some] at hrun'
    unfold Stuck at hstuck
    split at hstuck
    · rename_i hr
      rw [hr] at hrun'
      cases hrun'
      rw [hstuck] at hfinal
      cases hfinal
    · rename_i c rest hr
      rw [hr, State.run?, hstuck] at hrun'
      cases hrun'

/-- What the automaton runs over is the beginning of a text that can be read. -/
theorem exists_read_append (h : State.start.run? s = some q) :
    ∃ more root, read .strict (s ++ more) = .ok root := by
  refine ⟨q.completion, read_ok_iff.mpr ⟨⟨[], .after⟩, ?_, rfl⟩⟩
  rw [State.run?_append, h]
  exact q.run?_completion

/-- Where the automaton cannot go on with a character, no text that can be read goes on with its
first byte. -/
theorem not_read_of_bytes (h : State.start.run? s = some q) {c : Char} (hc : q.step? c = none)
    {rest w : List Char}
    (hw : ((s ++ c :: rest).flatMap String.utf8EncodeChar).take (byteLength s + 1) <+:
      w.flatMap String.utf8EncodeChar) :
    ¬∃ root, read .strict w = .ok root := by
  obtain ⟨d, w', rfl, hsame⟩ := exists_cons_of_bytes hw
  have hd : q.step? d = none := by
    rcases hsame with rfl | ⟨hsc, hsd⟩
    · exact hc
    · obtain ⟨hlettered, -⟩ := State.run?_depth h
      rw [State.step?_of_not_ascii hlettered hsc] at hc
      rw [State.step?_of_not_ascii hlettered hsd]
      exact hc
  rw [read_ok_iff]
  rintro ⟨r, hrun, -⟩
  rw [State.run?_append, h, Option.bind_some, State.run?, hd] at hrun
  cases hrun

end Automaton

namespace Document

theorem parse_ok_iff_read {mode : Mode} {source : String} :
    (∃ d, parse mode source = .ok d) ↔ ∃ root, read mode source.toList = .ok root := by
  rw [parse]
  cases read mode source.toList with
  | ok root => exact iff_of_true ⟨_, rfl⟩ ⟨root, rfl⟩
  | error e =>
    refine iff_of_false ?_ ?_
    · rintro ⟨d, hd⟩
      cases hd
    · rintro ⟨root, hr⟩
      cases hr

/-- **The offset of a strict error is that of the first byte that is wrong.** What stands in front
of it is the beginning of a text that can be parsed, and with the byte at it, if there is one, no
such text begins. An unexpected end is the end of the text, and what nests too deep is an opening
bracket in front of which as many containers are open as there may be. -/
theorem error_first {source : String} {e : Error} (h : parse .strict source = .error e) :
    e.offset ≤ source.utf8ByteSize ∧
    (∃ before after : String, source = before ++ after ∧ before.utf8ByteSize = e.offset ∧
      (∃ more d, parse .strict (before ++ more) = .ok d) ∧
      (e.kind = .tooDeep →
        (∃ c ∈ ['\x7b', '['], after.toList.head? = some c) ∧ openContainers before.toList = 512)) ∧
    (e.offset < source.utf8ByteSize → ∀ text d, parse .strict text = .ok d →
      ¬(bytes source).take (e.offset + 1) <+: bytes text) ∧
    (e.kind = .unexpectedEnd → e.offset = source.utf8ByteSize) := by
  have hread : read .strict source.toList = .error e := by
    rw [parse] at h
    cases hr : read .strict source.toList with
    | ok root =>
      rw [hr] at h
      cases h
    | error e' =>
      rw [hr] at h
      cases h
      rfl
  have hfails := Automaton.follows_read source.toList
  rw [hread] at hfails
  obtain ⟨s, p, q, hs, hrun, hblames⟩ := hfails
  have hsource : source.toList = s ++ p.rest := hs.1
  have hoffset : e.offset = byteLength s := by
    rw [hblames.offset_eq, hs.2, Nat.zero_add]
  have hsize : source.utf8ByteSize = e.offset + byteLength p.rest := by
    rw [← byteLength_toList, hsource, byteLength_append, hoffset]
  refine ⟨by omega, ⟨String.ofList s, String.ofList p.rest, ?_, ?_, ?_, fun hkind => ?_⟩,
    fun hlt text d hd => ?_, fun hkind => ?_⟩
  · rw [← String.ofList_append, ← hsource, String.ofList_toList]
  · rw [← byteLength_toList, String.toList_ofList, hoffset]
  · obtain ⟨more, root, hmore⟩ := Automaton.exists_read_append hrun
    refine ⟨String.ofList more, parse_ok_iff_read.mpr ⟨root, ?_⟩⟩
    rw [← String.ofList_append, String.toList_ofList]
    exact hmore
  · obtain ⟨hfull, c, rest, hr, hc⟩ := hblames.tooDeep hkind
    obtain ⟨-, hdepth⟩ := Automaton.State.run?_depth hrun
    rw [String.toList_ofList, String.toList_ofList, hr, ← hdepth, hfull]
    refine ⟨⟨c, ?_, rfl⟩, rfl⟩
    simpa [Grammar.opensContainer] using hc
  · intro hprefix
    obtain ⟨c, rest, hr⟩ : ∃ c rest, p.rest = c :: rest := by
      refine List.exists_cons_of_ne_nil fun hnil => ?_
      rw [hsize, hnil] at hlt
      simp [byteLength] at hlt
    have hstuck := hblames.stuck
    rw [Automaton.Stuck, hr] at hstuck
    rw [bytes_eq, bytes_eq, hsource, hr, hoffset] at hprefix
    exact Automaton.not_read_of_bytes hrun hstuck hprefix (parse_ok_iff_read.mp ⟨d, hd⟩)
  · rw [hsize, hblames.unexpectedEnd hkind]
    rfl

/-- Only the first byte of a character outside of ASCII is looked at. -/
theorem error_first_outside_ascii :
    parse .strict "[true, \u00e9]" = .error ⟨.unexpectedChar, 7⟩ ∧
      ∀ text d, parse .strict text = .ok d → ¬(bytes "[true, \u00e9]").take 8 <+: bytes text := by
  have h : parse .strict "[true, \u00e9]" = .error ⟨.unexpectedChar, 7⟩ := by rfl
  obtain ⟨-, -, hwrong, -⟩ := error_first h
  exact ⟨h, hwrong (by decide)⟩

end Document

end Testbench.Json
