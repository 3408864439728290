import Mathlib.Data.List.TakeDrop
import Mathlib.Data.List.TakeWhile
import Mathlib.Logic.Function.Iterate
import Agreement.Proofs.Transcript
import Agreement.Transcript.Terminal

/-!
# Terminals that never fail

A terminal without limits, with a text for its input, grants every request. It keeps the bytes that
it is given, and for each line that is waited for one line goes from its input.
-/

namespace Agreement

/-! ## Lines of a text -/

namespace Text

/-- What follows the first line. -/
def afterLine (s : List Char) : List Char :=
  (s.dropWhile (· != '\n')).tail

/-- Whether `taken` is what `n` lines take from a text that goes on with `rest`: all up to and with
the `n`-th line feed, or the whole text if it has fewer. -/
def FirstLines (n : Nat) (taken rest : List Char) : Prop :=
  (taken.count '\n' = n ∧ ∀ c, taken.getLast? = some c → c = '\n') ∨
    (taken.count '\n' < n ∧ rest = [])

variable {l r s taken rest : List Char} {n : Nat}

theorem dropWhile_line (h : '\n' ∉ l) (r : List Char) :
    (l ++ r).dropWhile (· != '\n') = r.dropWhile (· != '\n') := by
  refine List.dropWhile_append_of_pos fun c hc => ?_
  rw [bne_iff_ne]
  rintro rfl
  exact h hc

theorem afterLine_append (h : '\n' ∉ l) (r : List Char) : afterLine (l ++ '\n' :: r) = r := by
  rw [afterLine, dropWhile_line h]
  rfl

theorem afterLine_eq_nil (h : '\n' ∉ s) : afterLine s = [] := by
  have hdrop := dropWhile_line h []
  rw [List.append_nil] at hdrop
  rw [afterLine, hdrop]
  rfl

theorem FirstLines.eq_nil (h : FirstLines 0 taken rest) : taken = [] := by
  rcases h with ⟨hcount, hlast⟩ | ⟨hcount, -⟩
  · rcases List.eq_nil_or_concat' taken with rfl | ⟨init, c, rfl⟩
    · rfl
    · -- The last character would be a line feed, and there is none.
      obtain rfl := hlast c List.getLast?_concat
      simp at hcount
  · exact absurd hcount (Nat.not_lt_zero _)

/-- One more line, if there is one. -/
theorem FirstLines.succ (h : FirstLines n taken rest) :
    ∃ line, rest = line ++ afterLine rest ∧ FirstLines (n + 1) (taken ++ line) (afterLine rest) := by
  by_cases hmem : '\n' ∈ rest
  · obtain ⟨l, r, rfl, hl⟩ := List.eq_append_cons_of_mem hmem
    have hline : (taken ++ (l ++ ['\n'])).count '\n' = taken.count '\n' + 1 := by
      simp [List.count_eq_zero.mpr hl]
    rcases h with ⟨hcount, -⟩ | ⟨-, hnil⟩
    · refine ⟨l ++ ['\n'], ?_, Or.inl ⟨by rw [hline, hcount], ?_⟩⟩
      · rw [afterLine_append hl, List.append_assoc, List.singleton_append]
      · intro c hc
        simpa [eq_comm] using hc
    · simp at hnil
  · rw [afterLine_eq_nil hmem]
    refine ⟨rest, (List.append_nil rest).symm, Or.inr ⟨?_, rfl⟩⟩
    rw [List.count_append, List.count_eq_zero.mpr hmem]
    rcases h with ⟨hcount, -⟩ | ⟨hcount, -⟩ <;> omega

theorem exists_firstLines (n : Nat) (s : List Char) :
    ∃ taken, s = taken ++ afterLine^[n] s ∧ FirstLines n taken (afterLine^[n] s) := by
  induction n with
  | zero => exact ⟨[], rfl, Or.inl ⟨rfl, fun c hc => by simp at hc⟩⟩
  | succ n ih =>
      obtain ⟨taken, hs, htaken⟩ := ih
      obtain ⟨line, hrest, hline⟩ := htaken.succ
      rw [Function.iterate_succ_apply']
      refine ⟨taken ++ line, ?_, hline⟩
      rw [List.append_assoc, ← hrest, ← hs]

end Text

/-! ## Lines of an input -/

theorem toNat_mod_of_eq_ofNat {b : UInt8} {k : Nat} (h : b = UInt8.ofNat k) :
    k % 256 = b.toNat := by
  rw [h, UInt8.toNat_ofNat']

/-- No other character has the byte of a line feed. -/
theorem eq_of_mem_utf8EncodeChar {c : Char} (h : 0x0A ∈ String.utf8EncodeChar c) : c = '\n' := by
  have hbyte : (0x0A : UInt8).toNat = 10 := rfl
  have hval : c.val.toNat = 10 := by
    -- Each byte of a longer encoding is at least 128.
    unfold String.utf8EncodeChar at h
    dsimp only at h
    split at h
    · have hc := toNat_mod_of_eq_ofNat (List.mem_singleton.mp h)
      omega
    · simp only [apply_ite (fun bytes : List UInt8 => 0x0A ∈ bytes), List.mem_cons,
        List.not_mem_nil, or_false] at h
      split at h
      · rcases h with h | h <;> have hc := toNat_mod_of_eq_ofNat h <;> omega
      · split at h
        · rcases h with h | h | h <;> have hc := toNat_mod_of_eq_ofNat h <;> omega
        · rcases h with h | h | h | h <;> have hc := toNat_mod_of_eq_ofNat h <;> omega
  exact Char.toNat_inj.mp hval

theorem fromUTF8?_utf8Bytes (s : String) :
    String.fromUTF8? (utf8Bytes s).toByteArray = some s := by
  have hbytes : (utf8Bytes s).toByteArray = s.toByteArray := by
    conv_rhs => rw [← String.ofList_toList (s := s), String.toByteArray_ofList]
    rfl
  rw [hbytes, String.fromUTF8?, dif_pos s.isValidUTF8]
  rfl

/-- What a request leaves of a text to be read. -/
def Request.textAfter (s : List Char) : Request → List Char
  | readLine => Text.afterLine s
  | _ => s

namespace Terminal

theorem ne_feed_of_mem {l : List Char} (hl : '\n' ∉ l) :
    ∀ byte ∈ l.flatMap String.utf8EncodeChar, (byte != 0x0A) = true := by
  intro byte hbyte
  obtain ⟨c, hc, hbyte⟩ := List.mem_flatMap.mp hbyte
  rw [bne_iff_ne]
  rintro rfl
  exact hl (eq_of_mem_utf8EncodeChar hbyte ▸ hc)

/-- The first line of the bytes of a text is the bytes of a line. -/
theorem splitLine_utf8 (s : List Char) :
    ∃ line : List Char, splitLine (s.flatMap String.utf8EncodeChar) =
      (line.flatMap String.utf8EncodeChar, (Text.afterLine s).flatMap String.utf8EncodeChar) := by
  by_cases hmem : '\n' ∈ s
  · obtain ⟨l, r, rfl, hl⟩ := List.eq_append_cons_of_mem hmem
    have hfeed : String.utf8EncodeChar '\n' = [0x0A] := rfl
    refine ⟨l ++ ['\n'], ?_⟩
    rw [Text.afterLine_append hl, splitLine, List.span_eq_takeWhile_dropWhile, List.flatMap_append,
      List.flatMap_cons, hfeed, List.takeWhile_append_of_pos (ne_feed_of_mem hl),
      List.dropWhile_append_of_pos (ne_feed_of_mem hl)]
    simp [hfeed]
  · refine ⟨s, ?_⟩
    rw [Text.afterLine_eq_nil hmem, splitLine, List.span_eq_takeWhile_dropWhile,
      List.takeWhile_eq_self_iff.mpr (ne_feed_of_mem hmem),
      List.dropWhile_eq_nil_iff.mpr (ne_feed_of_mem hmem)]
    rfl

theorem decode_utf8Bytes (s : String) : decode (utf8Bytes s) = s := by
  have hcut : (List.range 4).findSome? (fun cut =>
      (String.fromUTF8? ((utf8Bytes s).take ((utf8Bytes s).length - cut)).toByteArray).map
        (·, cut)) = some (s, 0) := by
    have hall : (utf8Bytes s).take ((utf8Bytes s).length - 0) = utf8Bytes s := List.take_length
    have hrange : List.range 4 = [0, 1, 2, 3] := rfl
    rw [hrange, List.findSome?_cons, hall, fromUTF8?_utf8Bytes]
    rfl
  rw [decode, hcut]
  rfl

/-! ## Terminals without limits -/

/-- The terminal that holds the bytes written so far and the text not read yet. -/
def ofText (written : List UInt8) (input : List Char) : Terminal where
  backwards := written.reverse
  input := input.flatMap String.utf8EncodeChar

theorem ask_ofText (r : Request) (written : List UInt8) (s : List Char) :
    device.ask r (ofText written s) =
      (.ok (), ofText (written ++ r.byte?.toList) (r.textAfter s)) := by
  cases r with
  | accept byte => simp [Device.ask, device, ofText, Request.byte?, Request.textAfter]
  | flush => simp [Device.ask, device, ofText, Request.byte?, Request.textAfter]
  | readLine =>
      obtain ⟨line, hline⟩ := splitLine_utf8 s
      have hvalid : (line.flatMap String.utf8EncodeChar).toByteArray.IsValidUTF8 :=
        ByteArray.isValidUTF8_utf8Encode
      simp [Device.ask, device, ofText, Request.byte?, Request.textAfter, hline, hvalid]

/-- Everything is granted, the bytes are kept in order, and each line waited for is one line of the
text. -/
theorem askAll_ofText (rs : List Request) (written : List UInt8) (s : List Char) :
    device.askAll rs (ofText written s) =
      (rs.map .granted,
        ofText (written ++ rs.filterMap Request.byte?) (Text.afterLine^[rs.count .readLine] s)) := by
  induction rs generalizing written s with
  | nil => simp [Device.askAll]
  | cons r rs ih =>
      rw [Device.askAll, ask_ofText]
      cases r <;> simp [ih, Request.byte?, Request.textAfter, List.filterMap_cons]

end Terminal

end Agreement
