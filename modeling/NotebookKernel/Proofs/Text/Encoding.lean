import NotebookKernel.Text.Utf8

/-!
# Encoded texts are read back

The machine that reads UTF-8 puts every character together again from the one to four bytes in which it
is written, so that `Utf8.decode?` undoes `Utf8.encode`.
-/

namespace NotebookKernel.Utf8

variable {done : List (Option Char)} {rest : Bytes} {p : Pending}

theorem ofLead?_two : ∀ n < 32, 2 ≤ n →
    Pending.ofLead? (n + 0xC0) = some ⟨n, 1, 0x80, 0xBF⟩ := by
  decide

/-- The first byte of three leaves out the values of two bytes and the surrogates. -/
theorem ofLead?_three : ∀ n < 16, Pending.ofLead? (n + 0xE0) =
    some ⟨n, 2, if n = 0 then 0xA0 else 0x80, if n = 13 then 0x9F else 0xBF⟩ := by
  decide

/-- The first byte of four leaves out the values of three bytes and those beyond the last character. -/
theorem ofLead?_four : ∀ n < 5, Pending.ofLead? (n + 0xF0) =
    some ⟨n, 3, if n = 0 then 0x90 else 0x80, if n = 4 then 0x8F else 0xBF⟩ := by
  decide

theorem scan_lead {b : Nat} (hb : 0x80 ≤ b) (hb' : b < 256) (h : Pending.ofLead? b = some p) :
    scan done none (UInt8.ofNat b :: rest) = scan done (some p) rest := by
  have hnot : ¬b < 0x80 := by omega
  simp [scan, step, start, Nat.mod_eq_of_lt hb', h, hnot]

theorem scan_inner {n : Nat} (hn : n < 64) (howed : 1 < p.owed) (hlow : p.low ≤ n + 0x80)
    (hhigh : n + 0x80 ≤ p.high) :
    scan done (some p) (UInt8.ofNat (n + 0x80) :: rest) =
      scan done (some ⟨p.value * 64 + n, p.owed - 1, 0x80, 0xBF⟩) rest := by
  have hmod : (n + 0x80) % 256 = n + 0x80 := by omega
  have hmore : ¬p.owed ≤ 1 := by omega
  simp [scan, step, hmod, hlow, hhigh, hmore]

theorem scan_last {n : Nat} (hn : n < 64) (howed : p.owed = 1) (hlow : p.low ≤ n + 0x80)
    (hhigh : n + 0x80 ≤ p.high) :
    scan done (some p) (UInt8.ofNat (n + 0x80) :: rest) =
      scan (some (Char.ofNat (p.value * 64 + n)) :: done) none rest := by
  have hmod : (n + 0x80) % 256 = n + 0x80 := by omega
  simp [scan, step, hmod, hlow, hhigh, howed]

theorem scan_encodeChar (c : Char) :
    scan done none (String.utf8EncodeChar c ++ rest) = scan (some c :: done) none rest := by
  have hofNat : Char.ofNat c.toNat = c := Char.ofNat_toNat c
  have hvalid : c.toNat < 0xD800 ∨ 0xDFFF < c.toNat ∧ c.toNat < 0x110000 := c.valid
  have hbytes : String.utf8EncodeChar c = if c.toNat ≤ 0x7F then [UInt8.ofNat c.toNat]
      else if c.toNat ≤ 0x7FF then
        [UInt8.ofNat (c.toNat / 64 % 32 + 0xC0), UInt8.ofNat (c.toNat % 64 + 0x80)]
      else if c.toNat ≤ 0xFFFF then
        [UInt8.ofNat (c.toNat / 4096 % 16 + 0xE0), UInt8.ofNat (c.toNat / 64 % 64 + 0x80),
          UInt8.ofNat (c.toNat % 64 + 0x80)]
      else
        [UInt8.ofNat (c.toNat / 262144 % 8 + 0xF0), UInt8.ofNat (c.toNat / 4096 % 64 + 0x80),
          UInt8.ofNat (c.toNat / 64 % 64 + 0x80), UInt8.ofNat (c.toNat % 64 + 0x80)] := rfl
  rw [hbytes]
  generalize c.toNat = v at hofNat hvalid
  split
  · have hmod : v % 256 = v := by omega
    have hlt : v < 0x80 := by omega
    simp [scan, step, start, hmod, hlt, hofNat]
  split
  · have hlead := ofLead?_two (v / 64 % 32) (by omega) (by omega)
    rw [List.cons_append, scan_lead (by omega) (by omega) hlead]
    rw [List.cons_append, scan_last (by omega) rfl (by dsimp only; omega) (by dsimp only; omega)]
    have hvalue : v / 64 % 32 * 64 + v % 64 = v := by omega
    rw [hvalue, hofNat, List.nil_append]
  split
  · have hlead := ofLead?_three (v / 4096 % 16) (by omega)
    rw [List.cons_append, scan_lead (by omega) (by omega) hlead]
    rw [List.cons_append, scan_inner (by omega) (by dsimp only; omega) (by dsimp only; split <;> omega)
      (by dsimp only; split <;> omega)]
    rw [List.cons_append, scan_last (by omega) rfl (by dsimp only; omega) (by dsimp only; omega)]
    have hvalue : (v / 4096 % 16 * 64 + v / 64 % 64) * 64 + v % 64 = v := by omega
    rw [hvalue, hofNat, List.nil_append]
  · have hlead := ofLead?_four (v / 262144 % 8) (by omega)
    rw [List.cons_append, scan_lead (by omega) (by omega) hlead]
    rw [List.cons_append, scan_inner (by omega) (by dsimp only; omega) (by dsimp only; split <;> omega)
      (by dsimp only; split <;> omega)]
    rw [List.cons_append, scan_inner (by omega) (by dsimp only; omega) (by dsimp only; omega)
      (by dsimp only; omega)]
    rw [List.cons_append, scan_last (by omega) rfl (by dsimp only; omega) (by dsimp only; omega)]
    have hvalue : ((v / 262144 % 8 * 64 + v / 4096 % 64) * 64 + v / 64 % 64) * 64 + v % 64 = v := by
      omega
    rw [hvalue, hofNat, List.nil_append]

theorem scan_encode (done : List (Option Char)) (cs : List Char) :
    scan done none (cs.flatMap String.utf8EncodeChar) = cs.reverse.map some ++ done := by
  induction cs generalizing done with
  | nil => simp [scan]
  | cons c cs ih => rw [List.flatMap_cons, scan_encodeChar, ih]; simp

/-- Reading the bytes of a text gives the text. -/
theorem decode?_encode (s : String) : decode? (encode s) = some s := by
  simp [decode?, encode, scan_encode, ← List.map_reverse]

end NotebookKernel.Utf8
