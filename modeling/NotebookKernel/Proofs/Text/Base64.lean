import NotebookKernel.Text.Base64

/-!
# One text for each sequence of bytes

What `Base64.encode` writes is what `Base64.decode?` reads: every sequence of bytes is read back from
its text, and a text that is read at all is the one that would be written again. `Base64.Spells` says
which texts these are by the rules of the format, without the two.
-/

namespace NotebookKernel.Base64

/-! ## Digits -/

theorem value?_digit {n : Nat} (h : n < 64) : value? (digit n) = some n := by
  have hall : ∀ i : Fin 64, value? (digit i) = some i.val := by decide
  exact hall ⟨n, h⟩

theorem digit_ne_padding {n : Nat} (h : n < 64) : digit n ≠ '=' := by
  intro heq
  have hvalue := value?_digit h
  rw [heq] at hvalue
  cases hvalue

theorem bounds_of_isUpper {c : Char} (h : c.isUpper = true) : 65 ≤ c.toNat ∧ c.toNat ≤ 90 := by
  have h : c.val ≥ 65 ∧ c.val ≤ 90 := of_decide_eq_true h
  simpa [UInt32.le_iff_toNat_le] using h

theorem bounds_of_isLower {c : Char} (h : c.isLower = true) : 97 ≤ c.toNat ∧ c.toNat ≤ 122 := by
  have h : (decide (c.val ≥ 97) && decide (c.val ≤ 122)) = true := h
  simpa [UInt32.le_iff_toNat_le] using h

theorem digit_of_value? {c : Char} {n : Nat} (h : value? c = some n) : n < 64 ∧ digit n = c := by
  have hofNat {k : Nat} (hk : k = c.toNat) : Char.ofNat k = c := by rw [hk, Char.ofNat_toNat]
  unfold value? at h
  split at h
  · next hc =>
    cases h
    obtain ⟨hlow, hhigh⟩ := bounds_of_isUpper hc
    refine ⟨by omega, ?_⟩
    rw [digit, if_pos (by omega)]
    exact hofNat (by omega)
  split at h
  · next hc =>
    cases h
    obtain ⟨hlow, hhigh⟩ := bounds_of_isLower hc
    refine ⟨by omega, ?_⟩
    rw [digit, if_neg (by omega), if_pos (by omega)]
    exact hofNat (by omega)
  split at h
  · next hc =>
    cases h
    obtain ⟨hlow, hhigh⟩ : 48 ≤ c.toNat ∧ c.toNat ≤ 57 := Char.isDigit_iff_toNat.mp hc
    refine ⟨by omega, ?_⟩
    rw [digit, if_neg (by omega), if_neg (by omega), if_pos (by omega)]
    exact hofNat (by omega)
  split at h
  · next hc =>
    cases h
    exact ⟨by decide, hc.symm⟩
  split at h
  · next hc =>
    cases h
    exact ⟨by decide, hc.symm⟩
  · cases h

/-! ## Groups -/

theorem decodeChars?_encodeChars (bytes : Bytes) : decodeChars? (encodeChars bytes) = some bytes := by
  induction bytes using encodeChars.induct with
  | case1 => rfl
  | case2 a =>
    have ha := a.toNat_lt
    have hn : a.toNat / 4 * 64 + a.toNat % 4 * 16 = a.toNat * 16 := by omega
    simp only [encodeChars, decodeChars?.eq_2]
    rw [value?_digit (by omega), value?_digit (by omega)]
    simp only [Option.bind_eq_bind, Option.bind_some, hn]
    simp
  | case3 a b =>
    have ha := a.toNat_lt
    have hb := b.toNat_lt
    simp only [encodeChars]
    generalize hn : a.toNat * 256 + b.toNat = n
    have hgroup : (n / 1024 * 64 + n / 16 % 64) * 64 + n % 16 * 4 = n * 4 := by omega
    have hfirst : n / 256 = a.toNat := by omega
    have hsecond : n % 256 = b.toNat := by omega
    rw [decodeChars?.eq_3 _ _ _ (digit_ne_padding (by omega)), value?_digit (by omega),
      value?_digit (by omega), value?_digit (by omega)]
    simp only [Option.bind_eq_bind, Option.bind_some, hgroup]
    rw [if_pos (by omega), show n * 4 / 1024 = n / 256 by omega, Nat.mul_div_cancel _ (by decide),
      hfirst, hsecond, UInt8.ofNat_toNat, UInt8.ofNat_toNat]
  | case4 a b c rest ih =>
    have ha := a.toNat_lt
    have hb := b.toNat_lt
    have hc := c.toNat_lt
    simp only [encodeChars]
    generalize hn : (a.toNat * 256 + b.toNat) * 256 + c.toNat = n
    have hgroup : ((n / 262144 * 64 + n / 4096 % 64) * 64 + n / 64 % 64) * 64 + n % 64 = n := by
      omega
    have hfirst : n / 65536 = a.toNat := by omega
    have hsecond : n / 256 % 256 = b.toNat := by omega
    have hthird : n % 256 = c.toNat := by omega
    have hpadding (h : digit (n % 64) = '=') : False := digit_ne_padding (by omega) h
    rw [decodeChars?.eq_4 _ _ _ _ _ (fun _ h _ => hpadding h) (fun h _ => hpadding h),
      value?_digit (by omega), value?_digit (by omega), value?_digit (by omega),
      value?_digit (by omega), ih]
    simp only [Option.bind_eq_bind, Option.bind_some, hgroup]
    rw [hfirst, hsecond, hthird, UInt8.ofNat_toNat, UInt8.ofNat_toNat, UInt8.ofNat_toNat]

theorem encodeChars_of_decodeChars? {cs : List Char} {bytes : Bytes}
    (h : decodeChars? cs = some bytes) : encodeChars bytes = cs := by
  induction cs using decodeChars?.induct generalizing bytes with
  | case1 =>
    cases h
    rfl
  | case2 a b =>
    simp only [decodeChars?.eq_2, Option.bind_eq_bind, Option.bind_eq_some_iff] at h
    obtain ⟨x, hx, y, hy, h⟩ := h
    obtain ⟨hx, rfl⟩ := digit_of_value? hx
    obtain ⟨hy, rfl⟩ := digit_of_value? hy
    split at h
    · next hunused =>
      cases h
      have hbyte : (UInt8.ofNat ((x * 64 + y) / 16)).toNat = (x * 64 + y) / 16 :=
        UInt8.toNat_ofNat_of_lt' (show _ < 256 by omega)
      simp only [encodeChars, hbyte]
      rw [show (x * 64 + y) / 16 / 4 = x by omega, show (x * 64 + y) / 16 % 4 * 16 = y by omega]
    · cases h
  | case3 a b c hc =>
    simp only [decodeChars?.eq_3 _ _ _ hc, Option.bind_eq_bind, Option.bind_eq_some_iff] at h
    obtain ⟨x, hx, y, hy, z, hz, h⟩ := h
    obtain ⟨hx, rfl⟩ := digit_of_value? hx
    obtain ⟨hy, rfl⟩ := digit_of_value? hy
    obtain ⟨hz, rfl⟩ := digit_of_value? hz
    generalize hn : (x * 64 + y) * 64 + z = n at h
    have hdigits : n / 4096 = x ∧ n / 64 % 64 = y ∧ n % 64 = z := by omega
    split at h
    · next hunused =>
      cases h
      have hfirst : (UInt8.ofNat (n / 1024)).toNat = n / 1024 :=
        UInt8.toNat_ofNat_of_lt' (show _ < 256 by omega)
      have hsecond : (UInt8.ofNat (n / 4 % 256)).toNat = n / 4 % 256 :=
        UInt8.toNat_ofNat_of_lt' (show _ < 256 by omega)
      have hgroup : n / 1024 * 256 + n / 4 % 256 = n / 4 := by omega
      simp only [encodeChars, hfirst, hsecond, hgroup]
      rw [show n / 4 / 1024 = x by omega, show n / 4 / 16 % 64 = y by omega,
        show n / 4 % 16 * 4 = z by omega]
    · cases h
  | case4 a b c d rest hboth hone ih =>
    simp only [decodeChars?.eq_4 _ _ _ _ _ hboth hone, Option.bind_eq_bind,
      Option.bind_eq_some_iff] at h
    obtain ⟨x, hx, y, hy, z, hz, w, hw, tail, htail, h⟩ := h
    obtain ⟨hx, rfl⟩ := digit_of_value? hx
    obtain ⟨hy, rfl⟩ := digit_of_value? hy
    obtain ⟨hz, rfl⟩ := digit_of_value? hz
    obtain ⟨hw, rfl⟩ := digit_of_value? hw
    generalize hn : ((x * 64 + y) * 64 + z) * 64 + w = n at h
    cases h
    have hfirst : (UInt8.ofNat (n / 65536)).toNat = n / 65536 :=
      UInt8.toNat_ofNat_of_lt' (show _ < 256 by omega)
    have hsecond : (UInt8.ofNat (n / 256 % 256)).toNat = n / 256 % 256 :=
      UInt8.toNat_ofNat_of_lt' (show _ < 256 by omega)
    have hthird : (UInt8.ofNat (n % 256)).toNat = n % 256 :=
      UInt8.toNat_ofNat_of_lt' (show _ < 256 by omega)
    have hgroup : (n / 65536 * 256 + n / 256 % 256) * 256 + n % 256 = n := by omega
    simp only [encodeChars, hfirst, hsecond, hthird, hgroup, ih htail]
    rw [show n / 262144 = x by omega, show n / 4096 % 64 = y by omega,
      show n / 64 % 64 = z by omega, show n % 64 = w by omega]
  | case5 t hnil htwo hthree hfour =>
    rw [decodeChars?.eq_5 _ hnil htwo hthree hfour] at h
    cases h

theorem decode?_encode (bytes : Bytes) : decode? (encode bytes) = some bytes := by
  rw [decode?, encode, String.toList_ofList, decodeChars?_encodeChars]

theorem encode_of_decode? {s : String} {bytes : Bytes} (h : decode? s = some bytes) :
    encode bytes = s := by
  rw [encode, encodeChars_of_decodeChars? h, String.ofList_toList]

/-! ## Texts that are read -/

/-- The text has digits of these values, all below 64, and then as much padding as makes whole groups of
four, but no more than two. The last digit before the padding has no bits that belong to no byte. -/
structure Spells (cs : List Char) (values : List Nat) (padding : Nat) : Prop where
  chars : cs = values.map digit ++ List.replicate padding '='
  values_lt : ∀ n ∈ values, n < 64
  padding_le : padding ≤ 2
  whole : (values.length + padding) % 4 = 0
  unused : ∀ n, values.getLast? = some n → n % Nat.pow 4 padding = 0

theorem exists_spells_encodeChars (bytes : Bytes) :
    ∃ values padding, Spells (encodeChars bytes) values padding := by
  induction bytes using encodeChars.induct with
  | case1 => exact ⟨[], 0, rfl, by simp, by decide, rfl, by simp⟩
  | case2 a =>
    have ha := a.toNat_lt
    refine ⟨[a.toNat / 4, a.toNat % 4 * 16], 2, rfl, ?_, by decide, by simp, ?_⟩
    · simp only [List.forall_mem_cons]
      exact ⟨by omega, by omega, List.forall_mem_nil _⟩
    · intro m (hm : some (a.toNat % 4 * 16) = some m)
      cases hm
      exact Nat.mul_mod_left (a.toNat % 4) 16
  | case3 a b =>
    have ha := a.toNat_lt
    have hb := b.toNat_lt
    generalize hn : a.toNat * 256 + b.toNat = n
    refine ⟨[n / 1024, n / 16 % 64, n % 16 * 4], 1, by rw [← hn]; rfl, ?_, by decide, by simp, ?_⟩
    · simp only [List.forall_mem_cons]
      exact ⟨by omega, by omega, by omega, List.forall_mem_nil _⟩
    · intro m (hm : some (n % 16 * 4) = some m)
      cases hm
      exact Nat.mul_mod_left (n % 16) 4
  | case4 a b c rest ih =>
    have ha := a.toNat_lt
    have hb := b.toNat_lt
    have hc := c.toNat_lt
    obtain ⟨values, padding, hchars, hvalues, hpadding, hwhole, hunused⟩ := ih
    generalize hn : (a.toNat * 256 + b.toNat) * 256 + c.toNat = n
    refine ⟨n / 262144 :: n / 4096 % 64 :: n / 64 % 64 :: n % 64 :: values, padding,
      by simp only [encodeChars, hn, hchars]; rfl, ?_, hpadding, ?_, ?_⟩
    · simp only [List.forall_mem_cons]
      exact ⟨by omega, by omega, by omega, by omega, hvalues⟩
    · simp only [List.length_cons]
      omega
    · cases values with
      | nil =>
        obtain rfl : padding = 0 := by
          simp only [List.length_nil] at hwhole
          omega
        exact fun m _ => Nat.mod_one m
      | cons value values => simpa [List.getLast?_cons_cons] using hunused

/-- Whatever is spelled by the rules is read. The last group is the one that may be padded. -/
theorem Spells.exists_decodeChars? : ∀ {values : List Nat} {cs : List Char} {padding : Nat},
    Spells cs values padding → ∃ bytes, decodeChars? cs = some bytes
  | [], cs, padding, ⟨hchars, _, hpadding, hwhole, _⟩ => by
    obtain rfl : padding = 0 := by
      simp only [List.length_nil] at hwhole
      omega
    exact ⟨[], by rw [hchars]; rfl⟩
  | [x], cs, padding, ⟨_, _, hpadding, hwhole, _⟩ => by
    simp only [List.length_singleton] at hwhole
    omega
  | [x, y], cs, padding, ⟨hchars, hvalues, hpadding, hwhole, hunused⟩ => by
    simp only [List.length_cons, List.length_nil, List.forall_mem_cons] at hwhole hvalues
    obtain rfl : padding = 2 := by omega
    have hy : y % 16 = 0 := hunused y rfl
    change cs = [digit x, digit y, '=', '='] at hchars
    rw [hchars, decodeChars?.eq_2, value?_digit hvalues.1, value?_digit hvalues.2.1]
    exact ⟨_, if_pos (by omega)⟩
  | [x, y, z], cs, padding, ⟨hchars, hvalues, hpadding, hwhole, hunused⟩ => by
    simp only [List.length_cons, List.length_nil, List.forall_mem_cons] at hwhole hvalues
    obtain rfl : padding = 1 := by omega
    have hz : z % 4 = 0 := hunused z rfl
    change cs = [digit x, digit y, digit z, '='] at hchars
    rw [hchars, decodeChars?.eq_3 _ _ _ (digit_ne_padding hvalues.2.2.1), value?_digit hvalues.1,
      value?_digit hvalues.2.1, value?_digit hvalues.2.2.1]
    exact ⟨_, if_pos (by omega)⟩
  | x :: y :: z :: w :: values, cs, padding, ⟨hchars, hvalues, hpadding, hwhole, hunused⟩ => by
    simp only [List.length_cons, List.forall_mem_cons] at hwhole hvalues
    obtain ⟨hx, hy, hz, hw, hvalues⟩ := hvalues
    have hrest : Spells (values.map digit ++ List.replicate padding '=') values padding :=
      ⟨rfl, hvalues, hpadding, by omega, fun n hn => hunused n (by simp [List.getLast?_cons, hn])⟩
    obtain ⟨tail, htail⟩ := hrest.exists_decodeChars?
    rw [hchars]
    simp only [List.map_cons, List.cons_append]
    rw [decodeChars?.eq_4 _ _ _ _ _ (fun _ h _ => digit_ne_padding hw h)
      (fun h _ => digit_ne_padding hw h), value?_digit hx, value?_digit hy, value?_digit hz,
      value?_digit hw, htail]
    exact ⟨_, rfl⟩

theorem isSome_decode?_iff (s : String) :
    (decode? s).isSome ↔ ∃ values padding, Spells s.toList values padding := by
  rw [Option.isSome_iff_exists, decode?]
  constructor
  · rintro ⟨bytes, h⟩
    rw [← encodeChars_of_decodeChars? h]
    exact exists_spells_encodeChars bytes
  · rintro ⟨values, padding, h⟩
    exact h.exists_decodeChars?

end NotebookKernel.Base64
