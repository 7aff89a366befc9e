/-
What `AccountConfig::new` makes of its strings (`pjsua_account_config.rs`).

A string is its characters. `CString::new` refuses a string with a NUL character, which is an `expect`
that panics, and pjsua reads a C string up to its NUL. By then the user data of the account is behind
a raw pointer already.

* `AccountConfig.new_eq` — which strings are accepted, and what pjsua reads then.
-/

import Mathlib.Data.List.Basic
import PjsipClient.Error

namespace PjsipClient

/-- The characters of a `&str`. -/
abbrev Str := List Char

def nul : Char := .ofNat 0

/-! ### C strings -/

/-- A string that ends at its first NUL, which is not among its characters. -/
structure CString where
  text : Str
  noNul : nul ∉ text

/-- Where the string has a NUL. -/
structure NulError where
  position : ℕ
  deriving DecidableEq, Repr

def CString.new (text : Str) : Except NulError CString :=
  if noNul : nul ∉ text then .ok ⟨text, noNul⟩ else .error ⟨text.idxOf nul⟩

/-- The characters behind the pointer. -/
def CString.asPtr (string : CString) : Str := string.text ++ [nul]

/-- `pj_str`, which looks for the end of the string. -/
def pjStr (memory : Str) : Str := memory.takeWhile (· ≠ nul)

/-- **pjsua reads the whole string.** -/
@[simp] theorem pjStr_asPtr (string : CString) : pjStr string.asPtr = string.text := by
  have before : ∀ c ∈ string.text, decide (c ≠ nul) = true := by
    intro c member
    exact decide_eq_true fun same => string.noNul (same ▸ member)
  rw [pjStr, CString.asPtr, List.takeWhile_append_of_pos before]
  simp

@[simp] theorem expect_cStringNew {text : Str} (noNul : nul ∉ text) :
    expect (CString.new text) = .ok ⟨text, noNul⟩ := by
  simp [CString.new, noNul, expect]

@[simp] theorem expect_cStringNew_nul {text : Str} (found : nul ∈ text) :
    expect (CString.new text) = .error .panic := by
  simp [CString.new, found, expect]

/-! ### The configuration -/

/-- `PJSIP_CRED_DATA_PLAIN_PASSWD`. -/
def pjsipCredDataPlainPasswd : ℕ := 0

/-- The fields of `pjsip_cred_info` that are set. -/
structure PjsipCredInfo where
  realm : Str
  scheme : Str
  username : Str
  dataType : ℕ
  data : Str
  deriving DecidableEq

/-- The fields of `pjsua_acc_config` that are set. -/
structure PjsuaAccConfig where
  id : Str
  regUri : Str
  credCount : ℕ
  credInfo : List PjsipCredInfo
  userData : ℕ
  deriving DecidableEq

def CredInfo.new (allRealm scheme username password domain : Str) : Outcome PjsipCredInfo := do
  let allRealmOwned ← expect (CString.new allRealm)
  let schemeOwned ← expect (CString.new scheme)
  let usernameOwned ← expect (CString.new username)
  let passwordOwned ← expect (CString.new password)
  let _domainOwned ← expect (CString.new domain)
  pure
    { realm := pjStr allRealmOwned.asPtr
      scheme := pjStr schemeOwned.asPtr
      username := pjStr usernameOwned.asPtr
      data := pjStr passwordOwned.asPtr
      dataType := pjsipCredDataPlainPasswd }

def AccountConfig.id (username domain : Str) : Str :=
  ['s', 'i', 'p', ':'] ++ username ++ ['@'] ++ domain

def AccountConfig.uri (domain : Str) : Str := ['s', 'i', 'p', ':'] ++ domain

/-- The pointer to the user data is `userData`. -/
def AccountConfig.new (userData : ℕ) (username password domain : Str) : Outcome PjsuaAccConfig := do
  let id ← expect (CString.new (AccountConfig.id username domain))
  let uri ← expect (CString.new (AccountConfig.uri domain))
  let credInfo0 ←
    CredInfo.new ['*'] ['d', 'i', 'g', 'e', 's', 't'] username password domain
  pure
    { id := pjStr id.asPtr
      regUri := pjStr uri.asPtr
      credCount := 1
      credInfo := [credInfo0]
      userData := userData }

namespace AccountConfig

/-- The strings that are accepted. -/
def Accepts (username password domain : Str) : Prop :=
  nul ∉ username ∧ nul ∉ password ∧ nul ∉ domain

instance (username password domain : Str) : Decidable (Accepts username password domain) :=
  inferInstanceAs (Decidable (_ ∧ _))

/-- What pjsua is given. -/
def config (userData : ℕ) (username password domain : Str) : PjsuaAccConfig where
  id := id username domain
  regUri := uri domain
  credCount := 1
  credInfo :=
    [{ realm := ['*']
       scheme := ['d', 'i', 'g', 'e', 's', 't']
       username := username
       dataType := pjsipCredDataPlainPasswd
       data := password }]
  userData := userData

theorem nul_mem_id (username domain : Str) :
    nul ∈ id username domain ↔ nul ∈ username ∨ nul ∈ domain := by
  have prefixed : nul ∉ ['s', 'i', 'p', ':'] := by decide
  have at_sign : nul ∉ ['@'] := by decide
  simp only [id, List.mem_append, prefixed, at_sign, false_or, or_false]

theorem nul_mem_uri (domain : Str) : nul ∈ uri domain ↔ nul ∈ domain := by
  have prefixed : nul ∉ ['s', 'i', 'p', ':'] := by decide
  simp only [uri, List.mem_append, prefixed, false_or]

theorem credInfo_new {username password domain : Str} (accepts : Accepts username password domain) :
    CredInfo.new ['*'] ['d', 'i', 'g', 'e', 's', 't'] username password domain =
      .ok
        { realm := ['*']
          scheme := ['d', 'i', 'g', 'e', 's', 't']
          username := username
          dataType := pjsipCredDataPlainPasswd
          data := password } := by
  obtain ⟨user, secret, host⟩ := accepts
  have realm : nul ∉ ['*'] := by decide
  have scheme : nul ∉ ['d', 'i', 'g', 'e', 's', 't'] := by decide
  simp only [CredInfo.new, expect_cStringNew realm, expect_cStringNew scheme, expect_cStringNew user,
    expect_cStringNew secret, expect_cStringNew host, pjStr_asPtr]
  rfl

/-- **`AccountConfig::new` returns exactly when no string has a NUL**, and pjsua reads its strings
then. -/
theorem new_eq (userData : ℕ) (username password domain : Str) :
    new userData username password domain =
      if Accepts username password domain then .ok (config userData username password domain)
      else .error .panic := by
  by_cases named : nul ∈ id username domain
  · have refused : ¬ Accepts username password domain := by
      rintro ⟨user, _, host⟩
      exact ((nul_mem_id username domain).mp named).elim user host
    rw [if_neg refused, new, expect_cStringNew_nul named]
    rfl
  · obtain ⟨user, host⟩ := not_or.mp ((nul_mem_id username domain).not.mp named)
    have registrar : nul ∉ uri domain := (nul_mem_uri domain).not.mpr host
    rw [new, expect_cStringNew named]
    by_cases secret : nul ∈ password
    · have refused : ¬ Accepts username password domain := fun accepts => accepts.2.1 secret
      have realm : nul ∉ ['*'] := by decide
      have scheme : nul ∉ ['d', 'i', 'g', 'e', 's', 't'] := by decide
      rw [if_neg refused]
      simp only [expect_cStringNew registrar, CredInfo.new, expect_cStringNew realm,
        expect_cStringNew scheme, expect_cStringNew user, expect_cStringNew_nul secret]
      rfl
    · have accepts : Accepts username password domain := ⟨user, secret, host⟩
      rw [if_pos accepts]
      simp only [expect_cStringNew registrar, credInfo_new accepts]
      simp [Bind.bind, Except.bind, Pure.pure, Except.pure, config]

end AccountConfig

end PjsipClient
