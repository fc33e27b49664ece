import DuckCensus.Failure
import DuckCensus.Proofs.Text.Cut

/-! A quoted text tells what it quotes. No escape is the beginning of another one and none begins
with a quote, so the characters can be taken off one by one up to the closing quote. -/
namespace DuckCensus.Text

/-! Code points are told by their hexadecimal digits. -/

theorem digitChar_inj : ∀ m < 16, ∀ n < 16, Nat.digitChar m = Nat.digitChar n → m = n := by
  decide

theorem toDigits_inj {m n : Nat} (h : Nat.toDigits 16 m = Nat.toDigits 16 n) : m = n := by
  induction m using Nat.strongRecOn generalizing n with
  | ind m ih =>
    rw [Nat.toDigits_eq_if (by decide), Nat.toDigits_eq_if (n := n) (by decide)] at h
    split_ifs at h with hm hn hn
    · exact digitChar_inj m hm n hn (by simpa using h)
    · simpa using congrArg List.length h
    · simpa using congrArg List.length h
    · obtain ⟨hq, hr⟩ := List.append_inj' h rfl
      have hdiv : m / 16 = n / 16 := ih (m / 16) (by omega) hq
      have hmod : m % 16 = n % 16 :=
        digitChar_inj _ (m.mod_lt (by decide)) _ (n.mod_lt (by decide)) (by simpa using hr)
      omega

theorem exists_digitChar_of_mem {c : Char} {n : Nat} (h : c ∈ Nat.toDigits 16 n) :
    ∃ m < 16, c = Nat.digitChar m := by
  induction n using Nat.strongRecOn with
  | ind n ih =>
    rw [Nat.toDigits_eq_if (by decide)] at h
    split_ifs at h with hn
    · exact ⟨n, hn, List.mem_singleton.mp h⟩
    · obtain h | h := List.mem_append.mp h
      · exact ih (n / 16) (by omega) h
      · exact ⟨n % 16, n.mod_lt (by decide), List.mem_singleton.mp h⟩

theorem closing_not_mem_toDigits (n : Nat) : '\x7d' ∉ Nat.toDigits 16 n := by
  intro h
  obtain ⟨m, -, hm⟩ := exists_digitChar_of_mem h
  exact Nat.digitChar_ne '\x7d' (by decide) hm.symm

theorem codeEscape_append_inj {c d : Char} {rest rest' : List Char}
    (h : codeEscape c ++ rest = codeEscape d ++ rest') : c = d ∧ rest = rest' := by
  have hdigits : Nat.toDigits 16 c.toNat ++ '\x7d' :: rest =
      Nat.toDigits 16 d.toNat ++ '\x7d' :: rest' := by
    simpa [codeEscape] using h
  obtain ⟨hc, hrest⟩ := (append_cons_inj (closing_not_mem_toDigits _)
    (closing_not_mem_toDigits _)).mp hdigits
  exact ⟨Char.toNat_inj.mp (toDigits_inj hc), hrest⟩

def signs : List (Char × Char) :=
  [('"', '"'), ('\\', '\\'), ('\x00', '0'), ('\t', 't'), ('\n', 'n'), ('\r', 'r')]

/-- What stands for a character in a quoted text: the character itself, its sign behind a
backslash, or its code point. -/
inductive StandsFor (c : Char) : List Char → Prop where
  | plain (hq : c ≠ '"') (hb : c ≠ '\\') : StandsFor c [c]
  | signed (sign : Char) (hs : (c, sign) ∈ signs) : StandsFor c ['\\', sign]
  | coded : StandsFor c (codeEscape c)

theorem standsFor_escape (c : Char) : StandsFor c (escape c) := by
  unfold escape
  split_ifs with hq hb hz ht hn hr
  · subst hq
    exact .signed '"' (by decide)
  · subst hb
    exact .signed '\\' (by decide)
  · subst hz
    exact .signed '0' (by decide)
  · subst ht
    exact .signed 't' (by decide)
  · subst hn
    exact .signed 'n' (by decide)
  · subst hr
    exact .signed 'r' (by decide)
  · exact .coded
  · exact .plain hq hb

/-- A sign stands for one character, and none begins a code point. -/
theorem signs_inj : ∀ p ∈ signs, ∀ q ∈ signs, p.2 = q.2 → p.1 = q.1 := by decide

theorem code_not_mem_signs : ∀ p ∈ signs, p.2 ≠ 'u' := by decide

theorem StandsFor.append_inj {c d : Char} {v w rest rest' : List Char} (hv : StandsFor c v)
    (hw : StandsFor d w) (h : v ++ rest = w ++ rest') : c = d ∧ rest = rest' := by
  cases hv with
  | plain hq hb =>
    cases hw with
    | plain => simpa using h
    | signed sign hs =>
      cases h
      exact absurd rfl hb
    | coded =>
      cases h
      exact absurd rfl hb
  | signed sign hs =>
    cases hw with
    | plain hq hb =>
      cases h
      exact absurd rfl hb
    | signed sign' hs' =>
      cases h
      exact ⟨signs_inj _ hs _ hs' rfl, rfl⟩
    | coded =>
      cases h
      exact absurd rfl (code_not_mem_signs _ hs)
  | coded =>
    cases hw with
    | plain hq hb =>
      cases h
      exact absurd rfl hb
    | signed sign hs =>
      cases h
      exact absurd rfl (code_not_mem_signs _ hs)
    | coded => exact codeEscape_append_inj h

theorem StandsFor.ne_quote {c : Char} {w rest rest' : List Char} (hw : StandsFor c w) :
    w ++ rest ≠ '"' :: rest' := by
  intro h
  cases hw with
  | plain hq hb =>
    cases h
    exact hq rfl
  | signed sign hs => cases h
  | coded => cases h

theorem flatMap_escape_append_inj {cs ds rest rest' : List Char}
    (h : cs.flatMap escape ++ '"' :: rest = ds.flatMap escape ++ '"' :: rest') :
    cs = ds ∧ rest = rest' := by
  induction cs generalizing ds with
  | nil =>
    cases ds with
    | nil => simpa using h
    | cons d ds =>
      rw [List.flatMap_cons, List.append_assoc] at h
      -- the closing quote is nothing that stands for a character
      exact absurd h.symm (standsFor_escape d).ne_quote
  | cons c cs ih =>
    cases ds with
    | nil =>
      rw [List.flatMap_cons, List.append_assoc] at h
      exact absurd h (standsFor_escape c).ne_quote
    | cons d ds =>
      rw [List.flatMap_cons, List.flatMap_cons, List.append_assoc, List.append_assoc] at h
      obtain ⟨hc, ht⟩ := (standsFor_escape c).append_inj (standsFor_escape d) h
      obtain ⟨hcs, hrest⟩ := ih ht
      exact ⟨by rw [hc, hcs], hrest⟩

theorem quoted_inj {cs ds : List Char} : quoted cs = quoted ds ↔ cs = ds := by
  constructor
  · intro h
    exact (flatMap_escape_append_inj (List.tail_eq_of_cons_eq h)).1
  · rintro rfl
    rfl

end DuckCensus.Text
