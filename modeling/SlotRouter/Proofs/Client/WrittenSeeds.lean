import SlotRouter.Proofs.Text.Columns
import SlotRouter.Proofs.Text.Utf8
import SlotRouter.Seed

/-!
# Writing seeds

Whatever credentials a seed has, there is a URL for it.

* `percentForm` : digits with a percent sign before each two of them, which are read as the bytes
  that the digits are (`percentBytes_percentForm`);
* `percentEncoded` : a text as such digits, which is read back (`percentText?_percentEncoded`);
* `readAuthority?_written`, `parse?_written` : none of its characters ends a part of a URL;
* `parse_written` : so a seed is read back from a URL with its credentials.
-/

namespace SlotRouter.Seed

open Text

/-! ## Percent form -/

/-- Digits with a percent sign before each two of them. -/
def percentForm : List Char → List Char
  | high :: low :: rest => '%' :: high :: low :: percentForm rest
  | rest => rest

/-- What digits stand for is read from their percent form. -/
theorem percentBytes_percentForm {digits : List Char} {bytes : List UInt8}
    (h : hexBytes? digits = some bytes) : percentBytes (percentForm digits) = bytes := by
  fun_induction percentForm digits generalizing bytes with
  | case1 high low rest ih =>
    rw [hexBytes?] at h
    cases hbyte : hexByte? high low with
    | none =>
      rw [hbyte] at h
      cases h
    | some b =>
      cases hothers : hexBytes? rest with
      | none =>
        rw [hbyte, hothers] at h
        cases h
      | some others =>
        rw [hbyte, hothers] at h
        cases h
        rw [percentBytes, hbyte, ih hothers]
  | case2 rest hshort =>
    cases rest with
    | nil =>
      cases h
      rfl
    | cons c others =>
      cases others with
      | nil => cases h
      | cons d others => exact (hshort c d others rfl).elim

/-- A text as the digits of its bytes, in percent form. -/
def percentEncoded (s : List Char) : List Char := percentForm (hexText (Utf8.encode s)).toList

theorem percentText?_percentEncoded (s : List Char) : percentText? (percentEncoded s) = some s := by
  rw [percentText?, percentEncoded, percentBytes_percentForm (hexBytes?_hexText _),
    Utf8.decode?_encode]

theorem credential_percentEncoded (name : String) (s : List Char) :
    credential name (percentEncoded s) = .ok (String.ofList s) := by
  rw [credential, percentText?_percentEncoded]

/-! ## Its characters -/

theorem isAlphanum_digitChar {d : Nat} (h : d < 16) : (Nat.digitChar d).isAlphanum := by
  have all : ∀ d : Fin 16, (Nat.digitChar d).isAlphanum := by decide
  exact all ⟨d, h⟩

theorem isAlphanum_hexText {bytes : List UInt8} {c : Char} (h : c ∈ (hexText bytes).toList) :
    c.isAlphanum := by
  rw [hexText, String.toList_ofList, List.mem_flatMap] at h
  obtain ⟨b, -, hc⟩ := h
  have hb := b.toNat_lt
  simp only [List.mem_cons, List.not_mem_nil, or_false] at hc
  rcases hc with rfl | rfl
  · exact isAlphanum_digitChar (by omega)
  · exact isAlphanum_digitChar (by omega)

theorem mem_percentForm {digits : List Char} {c : Char} (h : c ∈ percentForm digits) :
    c = '%' ∨ c ∈ digits := by
  fun_induction percentForm digits with
  | case1 high low rest ih =>
    simp only [List.mem_cons] at h ⊢
    rcases h with h | h | h | h
    · exact .inl h
    · exact .inr (.inl h)
    · exact .inr (.inr (.inl h))
    · exact (ih h).imp_right fun hrest => .inr (.inr hrest)
  | case2 rest hshort => exact .inr h

theorem mem_percentEncoded {s : List Char} {c : Char} (h : c ∈ percentEncoded s) :
    c = '%' ∨ c.isAlphanum := (mem_percentForm h).imp_right isAlphanum_hexText

/-- No character of it ends a part of a URL. -/
theorem notMem_percentEncoded {c : Char} (hpercent : c ≠ '%') (hc : c.isAlphanum = false)
    (s : List Char) : c ∉ percentEncoded s := by
  intro hmem
  rcases mem_percentEncoded hmem with h | h
  · exact hpercent h
  · rw [hc] at h
    cases h

theorem percentEncoded_ne_nil {s : List Char} (h : s ≠ []) : percentEncoded s ≠ [] := by
  intro hempty
  have hread := percentText?_percentEncoded s
  rw [hempty] at hread
  exact h (Option.some.inj hread).symm

/-! ## Parts of a URL -/

/-- A host that stands in a URL as it is. -/
structure IsHostName (host : List Char) : Prop where
  nonempty : host ≠ []
  printable : ∀ c ∈ host, 0x20 < c.toNat ∧ c.toNat < 0x7F
  allowed : ∀ c ∈ host, isForbiddenInHost c = false

/-- No character of the text ends an authority, and none is a margin. -/
def IsPlain (s : List Char) : Prop := ∀ c ∈ s, 0x20 < c.toNat ∧ c ≠ '#' ∧ c ≠ '?' ∧ c ≠ '/'

theorem isPlain_append {s t : List Char} : IsPlain (s ++ t) ↔ IsPlain s ∧ IsPlain t :=
  List.forall_mem_append

theorem isPlain_cons {c : Char} {s : List Char} :
    IsPlain (c :: s) ↔ (0x20 < c.toNat ∧ c ≠ '#' ∧ c ≠ '?' ∧ c ≠ '/') ∧ IsPlain s :=
  List.forall_mem_cons

theorem lt_of_isAlphanum {c : Char} (h : c.isAlphanum) : 0x20 < c.toNat := by
  have all : ∀ n : Fin 0x21, (Char.ofNat n.val).isAlphanum = false := by decide
  rcases Nat.lt_or_ge 0x20 c.toNat with hlt | hle
  · exact hlt
  · have hnone := all ⟨c.toNat, Nat.lt_succ_of_le hle⟩
    rw [Char.ofNat_toNat, h] at hnone
    cases hnone

theorem plain_of_isAlphanum {c : Char} (h : c.isAlphanum) :
    0x20 < c.toNat ∧ c ≠ '#' ∧ c ≠ '?' ∧ c ≠ '/' := by
  refine ⟨lt_of_isAlphanum h, ?_, ?_, ?_⟩
  all_goals
    rintro rfl
    revert h
    decide

theorem isPlain_percentEncoded (s : List Char) : IsPlain (percentEncoded s) := by
  intro c hc
  rcases mem_percentEncoded hc with rfl | h
  · decide
  · exact plain_of_isAlphanum h

theorem isPlain_toDigits (n : Nat) : IsPlain (Nat.toDigits 10 n) := by
  intro c hc
  have hdigit : c.isDigit := Nat.isDigit_of_mem_toDigits (by decide) (by decide) hc
  exact plain_of_isAlphanum (by simp [Char.isAlphanum, hdigit])

namespace IsHostName

variable {host : List Char} (h : IsHostName host)

include h

theorem notMem {c : Char} (hc : isForbiddenInHost c) : c ∉ host := by
  intro hmem
  rw [h.allowed c hmem] at hc
  cases hc

theorem isPlain : IsPlain host := by
  intro c hc
  refine ⟨(h.printable c hc).1, ?_, ?_, ?_⟩
  all_goals
    rintro rfl
    exact h.notMem (by decide) hc

theorem readHost? : readHost? host = some (String.ofList host) := by
  have hbracket : host.head? ≠ some '[' := by
    intro hhead
    exact h.notMem (by decide) (List.mem_of_mem_head? hhead)
  have hforbidden : host.any isForbiddenInHost = false := by
    rw [List.any_eq_false]
    exact fun c hc => Bool.eq_false_iff.1 (h.allowed c hc)
  have hkept : host.flatMap encodeHostChar = host := by
    have hchars : ∀ c ∈ host, encodeHostChar c = [c] := by
      intro c hc
      obtain ⟨hlow, hhigh⟩ := h.printable c hc
      simp [encodeHostChar, hlow.le, hhigh]
    rw [List.flatMap_def, List.map_congr_left hchars, ← List.flatMap_def, List.flatMap_singleton']
  unfold Seed.readHost?
  split
  · next rest => exact absurd rfl hbracket
  · rw [hforbidden, hkept]
    rfl

theorem cutPort (rest : List Char) :
    cutPort false (host ++ ':' :: rest) = (host, some rest) := by
  have hcolon := h.notMem (c := ':') (by decide)
  have hbracket := h.notMem (c := '[') (by decide)
  clear h
  induction host with
  | nil => rfl
  | cons c others ih =>
    obtain ⟨hc, hothers⟩ := List.ne_and_not_mem_of_not_mem_cons hcolon
    obtain ⟨hb, hothers'⟩ := List.ne_and_not_mem_of_not_mem_cons hbracket
    have hinside : bracketsAfter false c = false := by simp [bracketsAfter, Ne.symm hb]
    rw [List.cons_append, Seed.cutPort, hinside, ih hothers hothers']
    simp [Ne.symm hc]

end IsHostName

/-! ## Written seeds -/

section Written

variable {host user password : List Char} {port : UInt16}

/-- Credentials, host and port as they stand in a URL. -/
def authorityText (user password host : List Char) (port : UInt16) : List Char :=
  percentEncoded user ++ ':' :: percentEncoded password ++
    '@' :: (host ++ ':' :: Nat.toDigits 10 port.toNat)

theorem isPlain_authorityText (hhost : IsHostName host) :
    IsPlain (authorityText user password host port) := by
  rw [authorityText, isPlain_append, isPlain_append, isPlain_cons, isPlain_cons, isPlain_append,
    isPlain_cons]
  exact ⟨⟨isPlain_percentEncoded _, by decide, isPlain_percentEncoded _⟩, by decide,
    hhost.isPlain, by decide, isPlain_toDigits _⟩

theorem readUserinfo_written (hpassword : password ≠ []) :
    readUserinfo (percentEncoded user ++ ':' :: percentEncoded password) =
      (percentEncoded user, some (percentEncoded password)) := by
  have hcolon := notMem_percentEncoded (c := ':') (by decide) (by decide) user
  rw [readUserinfo, cutFirst_append _ hcolon]
  have hne := percentEncoded_ne_nil hpassword
  generalize percentEncoded password = p at hne
  cases p with
  | nil => exact absurd rfl hne
  | cons c rest => rfl

theorem readPort?_toDigits (port : UInt16) :
    readPort? (Nat.toDigits 10 port.toNat) = some (some port.toNat) := by
  have hport : port.toNat < 65536 := port.toNat_lt
  rw [readPort?, digits?_toDigits]
  simp [Nat.toDigits_ne_nil, hport]

theorem readAuthority?_written (hhost : IsHostName host) (hpassword : password ≠ [])
    (last : Bool) : readAuthority? (authorityText user password host port) last =
      some ⟨percentEncoded user, some (percentEncoded password), some (String.ofList host),
        some port.toNat, []⟩ := by
  have hat : '@' ∉ host ++ ':' :: Nat.toDigits 10 port.toNat := by
    simp [hhost.notMem (c := '@') (by decide), notMem_toDigits (c := '@') (by decide)]
  have hslash : ∀ c ∈ Nat.toDigits 10 port.toNat, (c != '\\') = true := by
    intro c hc
    simp only [bne_iff_ne]
    rintro rfl
    exact notMem_toDigits (by decide) _ hc
  rw [authorityText, readAuthority?, cutLast_append _ hat]
  dsimp only [Option.getD_some]
  rw [readUserinfo_written hpassword, hhost.cutPort]
  dsimp only
  rw [hhost.readHost?, Option.getD_some, List.takeWhile_eq_self_iff.2 hslash,
    List.dropWhile_eq_nil_iff.2 hslash, readPort?_toDigits]
  simp [hhost.nonempty]

theorem dropWhile_isMargin {s : List Char} (h : ∀ c ∈ s, 0x20 < c.toNat) :
    s.dropWhile isMargin = s := by
  cases s with
  | nil => rfl
  | cons c rest =>
    have hc := h c List.mem_cons_self
    exact List.dropWhile_cons_of_neg (by simpa [isMargin] using hc)

theorem cleaned_of_forall {s : List Char} (h : ∀ c ∈ s, 0x20 < c.toNat) : cleaned s = s := by
  have hreverse : ∀ c ∈ s.reverse, 0x20 < c.toNat := fun c hc => h c (List.mem_reverse.1 hc)
  have hbreak : ∀ c ∈ s, (c != '\t' && c != '\n' && c != '\r') = true := by
    intro c hc
    have hlow := h c hc
    simp only [Bool.and_eq_true, bne_iff_ne]
    refine ⟨⟨?_, ?_⟩, ?_⟩
    all_goals
      rintro rfl
      revert hlow
      decide
  rw [cleaned, dropWhile_isMargin h, dropWhile_isMargin hreverse, List.reverse_reverse]
  exact List.filter_eq_self.2 hbreak

/-- The URL with an authority. -/
def urlText (authority : List Char) : String :=
  String.ofList (['r', 'e', 'd', 'i', 's'] ++ ':' :: '/' :: '/' :: authority)

theorem parse?_urlText {authority : List Char} {a : Authority} (hplain : IsPlain authority)
    (hread : readAuthority? authority true = some a) (hstart : a.pathStart = []) :
    Url.parse? (urlText authority) =
      some ⟨"redis", a.username, a.password, a.host, a.port, [], []⟩ := by
  have hfragment : '#' ∉ authority := fun hc => (hplain _ hc).2.1 rfl
  have hquery : '?' ∉ authority := fun hc => (hplain _ hc).2.2.1 rfl
  have hpath : ∀ c ∈ authority, (c != '/') = true := fun c hc => bne_iff_ne.2 (hplain c hc).2.2.2
  have hclean : cleaned (urlText authority).toList =
      ['r', 'e', 'd', 'i', 's'] ++ ':' :: '/' :: '/' :: authority := by
    rw [urlText, String.toList_ofList]
    refine cleaned_of_forall fun c hc => ?_
    simp only [List.mem_append, List.mem_cons, List.not_mem_nil, or_false] at hc
    rcases hc with (rfl | rfl | rfl | rfl | rfl) | rfl | rfl | rfl | hc
    all_goals first | decide | exact (hplain c hc).1
  have hnofragment : cutFirst '#' (['r', 'e', 'd', 'i', 's'] ++ ':' :: '/' :: '/' :: authority) =
      none := cutFirst_eq_none_iff.2 (by simp [hfragment])
  have hnoquery : cutFirst '?' ('/' :: '/' :: authority) = none :=
    cutFirst_eq_none_iff.2 (by simp [hquery])
  have hscheme : readScheme? ['r', 'e', 'd', 'i', 's'] = some "redis" := by decide
  rw [Url.parse?, hclean, hnofragment]
  dsimp only
  rw [cutFirst_append _ (by decide)]
  dsimp only [Option.bind_eq_bind, Option.bind_some]
  rw [hscheme, hnoquery]
  show (readAuthority? (authority.takeWhile (· != '/'))
    ((authority.dropWhile (· != '/')).isEmpty && true && true)).bind _ = _
  rw [List.takeWhile_eq_self_iff.2 hpath, List.dropWhile_eq_nil_iff.2 hpath]
  refine (congrArg (Option.bind · _) hread).trans ?_
  rw [Option.bind_some, hstart]
  rfl

/-- A URL without path and query, whose credentials are readable. -/
theorem ofTcpUrl_of_credentials {name pass host : String} {encoded : List Char} {number : Nat}
    (hne : user ≠ []) (huser : credential "Username" user = .ok name)
    (hpass : credential "Password" encoded = .ok pass) :
    ofTcpUrl ⟨"redis", user, some encoded, some host, some number, [], []⟩ =
      .ok ⟨.tcp host (UInt16.ofNat number), some name, some pass⟩ := by
  have hprotocol : ∀ u : Url, u.query = [] → requireProtocol u = .ok () := by
    intro u hquery
    rw [requireProtocol, Url.query?, hquery]
    rfl
  simp only [ofTcpUrl, String.reduceEq, if_false, List.isEmpty_iff, hne, huser, hpass, hprotocol]
  rfl

/-- Whatever the credentials are, as long as there are some, they are read back. -/
theorem parse_written (hhost : IsHostName host) (huser : user ≠ []) (hpassword : password ≠ []) :
    Seed.parse (urlText (authorityText user password host port)) =
      .ok ⟨.tcp (String.ofList host) port, some (String.ofList user),
        some (String.ofList password)⟩ := by
  have hread := @readAuthority?_written host user password port hhost hpassword true
  have hurl := parse?_urlText (isPlain_authorityText hhost) hread rfl
  rw [Seed.parse, hurl]
  have htcp : (decide ("redis" = "redis") || decide ("redis" = "rediss")) = true := rfl
  dsimp only
  rw [if_pos htcp, ofTcpUrl_of_credentials (percentEncoded_ne_nil huser)
    (credential_percentEncoded _ user) (credential_percentEncoded _ password), UInt16.ofNat_toNat]

end Written

end SlotRouter.Seed
