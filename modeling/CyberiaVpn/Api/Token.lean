import CyberiaVpn.Api.Handlers
import CyberiaVpn.Codec.Base64Url
import CyberiaVpn.Codec.JsonReader
import CyberiaVpn.Codec.Spaces

/-!
# Account tokens

`services/control-api/internal/api/token.go`: the operator lists accounts
with the SHA-256 digests of their tokens, and a request names its account
by bearing one of the tokens.

The loop of `NewTokenAuthenticator` makes a map of the list and refuses
lists that a map would not be faithful to, so what a token stands for can
be read off the list (`authenticate_iff`).
-/

namespace CyberiaVpn.Api

open Codec Control Data Identity

structure TokenCredential where
  accountID : Text
  tokenSHA256 : Text
  expiresAt : Time
  deriving DecidableEq

structure TokenAuthenticator where
  credentials : Table Digest TokenCredential

/-! ## Provisioning -/

def alphanumeric (b : UInt8) : Bool := (97 ≤ b && b ≤ 122) || (48 ≤ b && b ≤ 57)

/-- The expression `^[a-z0-9](?:[a-z0-9-]{0,61}[a-z0-9])?$`. -/
def accountSlug : Text → Bool
  | [] => false
  | first :: rest =>
      alphanumeric first &&
        match rest.getLast? with
        | none => true
        | some last =>
            rest.dropLast.length ≤ 61 && rest.dropLast.all (fun b => alphanumeric b || b = 45) &&
              alphanumeric last

/-- `hex.DecodeString`. -/
def decodeString : Text → Option Text
  | [] => some []
  | high :: low :: rest => do
      let n := (← Json.hexDigit? high) * 16 + (← Json.hexDigit? low)
      return UInt8.ofNat n :: (← decodeString rest)
  | [_] => none

def day : Int := 24 * 60 * 60 * 10 ^ 9

/-- The checks on a credential, and its digest. -/
def TokenCredential.digest (credential : TokenCredential) (now : Time) : Option Digest := do
  let digest ← decodeString credential.tokenSHA256
  if h : digest.length = 32 then
    if !accountSlug credential.accountID || !credential.expiresAt.after now ||
        credential.expiresAt.after (now.add day) then none
    else some ⟨digest, h⟩
  else none

/-- The loop of `NewTokenAuthenticator`. -/
def addCredentials (now : Time) :
    List TokenCredential → Table Digest TokenCredential → Except String (Table Digest TokenCredential)
  | [], table => .ok table
  | credential :: rest, table =>
      match credential.digest now with
      | none => .error "invalid account credential or expiry outside (now, now+24h]"
      | some digest =>
          if digest ∈ table then .error "duplicate account token digest"
          else addCredentials now rest (table.insert digest credential)

def newTokenAuthenticator (credentials : List TokenCredential) (now : Time) :
    Except String TokenAuthenticator :=
  if credentials.length = 0 ∨ 10000 < credentials.length then
    .error "account credentials and clock required; maximum 10000 credentials"
  else (addCredentials now credentials ∅).map TokenAuthenticator.mk

/-! ## Authentication -/

def lower (b : UInt8) : UInt8 := if 65 ≤ b ∧ b ≤ 90 then b + 32 else b

/-- `strings.EqualFold` with a word that has neither k nor s, the letters
that characters beyond ASCII fold to. -/
def equalFold (text word : Text) : Bool := text.map lower = word.map lower

/-- What authentication sees of a request. -/
structure Bearer where
  /-- The context of the request is done. -/
  cancelled : Bool
  /-- The values of its `Authorization` header. -/
  authorization : List Text

def authenticate (sha256 : Text → Digest) (auth : TokenAuthenticator) (bearer : Bearer)
    (now : Time) : Except Text Text :=
  if bearer.cancelled then .error (ascii "context canceled")
  else
    match bearer.authorization with
    | [value] =>
        if 128 < value.length then unauthenticated
        else
          match fields value with
          | [scheme, text] =>
              if !equalFold scheme (ascii "Bearer") then unauthenticated
              else
                match Base64Url.decodeString text with
                | none => unauthenticated
                | some token =>
                    if token.length ≠ 32 ∨ Base64Url.encode token ≠ text then unauthenticated
                    else
                      match auth.credentials.lookup (sha256 text) with
                      | none => unauthenticated
                      | some credential =>
                          if !credential.expiresAt.after now then unauthenticated
                          else .ok credential.accountID
          | _ => unauthenticated
    | _ => unauthenticated
where
  unauthenticated : Except Text Text := .error (ascii "invalid or expired account credential")

/-! ## Account names -/

theorem alphanumeric_iff (b : UInt8) : alphanumeric b = true ↔ identifierByte b = true ∧ b ≠ 45 := by
  have hall : ∀ n < 256, alphanumeric (UInt8.ofNat n) = true ↔
      identifierByte (UInt8.ofNat n) = true ∧ UInt8.ofNat n ≠ 45 := by decide +kernel
  have hb := hall b.toNat b.toNat_lt
  rwa [UInt8.ofNat_toNat] at hb

theorem identifierByte_iff (b : UInt8) :
    (alphanumeric b || b = 45) = true ↔ identifierByte b = true := by
  have hdash : identifierByte 45 = true := by decide
  rw [Bool.or_eq_true, alphanumeric_iff, decide_eq_true_eq]
  constructor
  · rintro (⟨h, -⟩ | rfl)
    · exact h
    · exact hdash
  · exact fun h => (em (b = 45)).symm.imp (fun hne => ⟨h, hne⟩) id

/-- The expression and the loop of the enrollment store agree. -/
theorem accountSlug_iff (id : Text) : accountSlug id = true ↔ validIdentifier id = true := by
  cases id with
  | nil => decide
  | cons first rest =>
      rw [accountSlug, validIdentifier]
      rcases List.eq_nil_or_concat rest with rfl | ⟨middle, last, rfl⟩
      · simp [alphanumeric_iff, and_comm]
      · have hmiddle : (middle.all fun b => alphanumeric b || b = 45) = middle.all identifierByte :=
          List.all_congr rfl fun b => Bool.eq_iff_iff.mpr (identifierByte_iff b)
        have hlength : middle.length ≤ 61 ↔ middle.length + 1 < 63 := by omega
        simp only [List.concat_eq_append, List.dropLast_concat, hmiddle, Bool.and_eq_true,
          alphanumeric_iff, decide_eq_true_eq]
        simp only [List.getLast?_append, List.getLast?_singleton, Option.some_or, Bool.and_eq_true,
          alphanumeric_iff, decide_eq_true_eq]
        have hlast : (first :: (middle ++ [last])).getLast? = some last :=
          List.getLast?_append_of_ne_nil (first :: middle) (by simp)
        simp [hlength, hlast]
        tauto

/-! ## The list and the map -/

section

variable {now : Time} {credentials : List TokenCredential} {table table' : Table Digest TokenCredential}
  {δ : Digest} {credential : TokenCredential}

/-- What passes the checks. -/
structure TokenCredential.Good (credential : TokenCredential) (now : Time) (δ : Digest) : Prop where
  digest : decodeString credential.tokenSHA256 = some δ.1
  account : validIdentifier credential.accountID = true
  live : credential.expiresAt.after now = true
  bounded : credential.expiresAt.after (now.add day) = false

theorem digest_eq_some :
    credential.digest now = some δ ↔ credential.Good now δ := by
  rw [TokenCredential.digest]
  constructor
  · intro h
    obtain ⟨digest, hdigest, h⟩ := Option.bind_eq_some_iff.mp h
    split at h
    swap
    · cases h
    split at h
    · cases h
    next hchecks =>
    obtain rfl := Option.some.inj h
    simp only [Bool.or_eq_true, Bool.not_eq_true', not_or, Bool.not_eq_false, Bool.not_eq_true,
      accountSlug_iff] at hchecks
    exact ⟨hdigest, hchecks.1.1, hchecks.1.2, hchecks.2⟩
  · intro h
    have hslug := (accountSlug_iff _).mpr h.account
    simp [h.digest, hslug, h.live, h.bounded, δ.2]

/-- The map holds what it held, and each credential of the list under its
digest. -/
theorem addCredentials_spec (h : addCredentials now credentials table = .ok table') :
    (∀ c ∈ credentials, ∃ δ, c.Good now δ) ∧
      (credentials.Pairwise fun c c' => ∀ δ, c.Good now δ → ¬c'.Good now δ) ∧
      (∀ c ∈ credentials, ∀ δ, c.Good now δ → δ ∉ table) ∧
      ∀ δ c, table'.lookup δ = some c ↔ table.lookup δ = some c ∨ c ∈ credentials ∧ c.Good now δ := by
  induction credentials generalizing table with
  | nil =>
      cases h
      simp
  | cons credential rest ih =>
      rw [addCredentials] at h
      split at h
      · cases h
      next δ₀ hδ₀ =>
      have hgood := digest_eq_some.mp hδ₀
      split at h
      · cases h
      next hnew =>
      obtain ⟨hall, hdistinct, habsent, hlookup⟩ := ih h
      have hunique : ∀ δ, credential.Good now δ → δ = δ₀ := fun δ hδ =>
        Subtype.ext (Option.some.inj (hδ.digest.symm.trans hgood.digest))
      refine ⟨?_, ?_, ?_, ?_⟩
      · exact List.forall_mem_cons.mpr ⟨⟨δ₀, hgood⟩, hall⟩
      · refine List.pairwise_cons.mpr ⟨fun c hc δ hδ hδ' => ?_, hdistinct⟩
        obtain rfl := hunique δ hδ
        exact habsent c hc δ hδ' (AList.mem_insert _ |>.mpr (.inl rfl))
      · refine List.forall_mem_cons.mpr ⟨fun δ hδ => hunique δ hδ ▸ hnew, fun c hc δ hδ hmem => ?_⟩
        exact habsent c hc δ hδ (AList.mem_insert _ |>.mpr (.inr hmem))
      · intro δ c
        rw [hlookup, List.mem_cons]
        by_cases hδ : δ = δ₀
        · subst hδ
          have hnone : table.lookup δ = none := AList.lookup_eq_none.mpr hnew
          rw [AList.lookup_insert, hnone]
          constructor
          · rintro (hc | ⟨hc, hgood'⟩)
            · obtain rfl := Option.some.inj hc
              exact .inr ⟨.inl rfl, hgood⟩
            · exact .inr ⟨.inr hc, hgood'⟩
          · rintro (hc | ⟨rfl | hc, hgood'⟩)
            · cases hc
            · exact .inl rfl
            · exact .inr ⟨hc, hgood'⟩
        · rw [AList.lookup_insert_ne hδ]
          refine or_congr_right ⟨fun ⟨hc, hgood'⟩ => ⟨.inr hc, hgood'⟩, ?_⟩
          rintro ⟨rfl | hc, hgood'⟩
          · exact absurd (hunique δ hgood') hδ
          · exact ⟨hc, hgood'⟩

theorem newTokenAuthenticator_spec {auth : TokenAuthenticator}
    (h : newTokenAuthenticator credentials now = .ok auth) :
    (∀ c ∈ credentials, ∃ δ, c.Good now δ) ∧
      (credentials.Pairwise fun c c' => ∀ δ, c.Good now δ → ¬c'.Good now δ) ∧
      ∀ δ c, auth.credentials.lookup δ = some c ↔ c ∈ credentials ∧ c.Good now δ := by
  rw [newTokenAuthenticator] at h
  split at h
  · cases h
  cases hadd : addCredentials now credentials ∅ with
  | error e =>
      rw [hadd] at h
      cases h
  | ok table =>
      rw [hadd] at h
      cases h
      obtain ⟨hall, hdistinct, -, hlookup⟩ := addCredentials_spec hadd
      refine ⟨hall, hdistinct, fun δ c => (hlookup δ c).trans (or_iff_right ?_)⟩
      rw [AList.lookup_empty]
      rintro ⟨⟩

end

/-! ## What a token stands for -/

/-- The header that bears a token. -/
def bearing (token : Text) : Text := ascii "Bearer" ++ 32 :: Base64Url.encode token

/-- A request bears exactly this token, in its one header. -/
structure Bearer.Bears (bearer : Bearer) (token : Text) : Prop where
  live : bearer.cancelled = false
  length : token.length = 32
  header : ∃ value scheme, bearer.authorization = [value] ∧ value.length ≤ 128 ∧
    fields value = [scheme, Base64Url.encode token] ∧ equalFold scheme (ascii "Bearer") = true

theorem bears_bearing {token : Text} (h : token.length = 32) :
    Bearer.Bears ⟨false, [bearing token]⟩ token := by
  have hscheme : ∀ b ∈ ascii "Bearer", Visible b := by decide +kernel
  have hlength : (Base64Url.encode token).length = 43 := by rw [Base64Url.length_encode, h]
  refine ⟨rfl, h, bearing token, ascii "Bearer", rfl, ?_, ?_, by decide⟩
  · rw [bearing, List.length_append, List.length_cons, hlength]
    decide
  · rw [bearing, fields_pair hscheme Base64Url.encode_visible]
    cases htext : Base64Url.encode token with
    | nil => rw [htext] at hlength; cases hlength
    | cons b text => rfl

theorem authenticate_eq_ok {sha256 : Text → Digest} {auth : TokenAuthenticator} {bearer : Bearer}
    {now : Time} {account : Text} :
    authenticate sha256 auth bearer now = .ok account ↔
      ∃ token credential, bearer.Bears token ∧
        auth.credentials.lookup (sha256 (Base64Url.encode token)) = some credential ∧
        credential.expiresAt.after now = true ∧ credential.accountID = account := by
  constructor
  · intro h
    rw [authenticate] at h
    split at h
    · cases h
    next hlive =>
    split at h
    swap
    · cases h
    next value hvalue =>
    split at h
    · cases h
    next hshort =>
    split at h
    swap
    · cases h
    next scheme text hfields =>
    split at h
    · cases h
    next hscheme =>
    split at h
    · cases h
    next token _ =>
    split at h
    · cases h
    next htoken =>
    obtain ⟨hlength, rfl⟩ := not_or.mp htoken |>.imp not_not.mp not_not.mp
    split at h
    · cases h
    next credential hcredential =>
    split at h
    · cases h
    next hexpiry =>
    refine ⟨token, credential, ⟨by simpa using hlive, hlength, value, scheme, hvalue, by omega,
      hfields, by simpa using hscheme⟩, hcredential, by simpa using hexpiry, Except.ok.inj h⟩
  · rintro ⟨token, credential, ⟨hlive, hlength, value, scheme, hvalue, hshort, hfields, hscheme⟩,
      hcredential, hexpiry, rfl⟩
    have hfits : ¬128 < value.length := by omega
    simp [authenticate, hlive, hvalue, hfits, hfields, hscheme, Base64Url.decodeString_encode,
      hlength, hcredential, hexpiry]

/-- **The list says who is who.** A request is authenticated as an account
if and only if it bears, in one header and before it expires, a token
whose digest the operator listed for that account; a token stands for one
entry of the list only. Every listed token can be borne. No token is good
for longer than a day after the start, nor for a name that is not a
slug. -/
theorem authenticate_iff (sha256 : Text → Digest) (credentials : List TokenCredential)
    (start : Time) (auth : TokenAuthenticator)
    (hauth : newTokenAuthenticator credentials start = .ok auth) :
    (∀ bearer now account, authenticate sha256 auth bearer now = .ok account ↔
      ∃ token credential, bearer.Bears token ∧ credential ∈ credentials ∧
        decodeString credential.tokenSHA256 = some (sha256 (Base64Url.encode token)).1 ∧
        credential.expiresAt.after now = true ∧ credential.accountID = account) ∧
    (credentials.Pairwise fun c c' => decodeString c.tokenSHA256 ≠ decodeString c'.tokenSHA256) ∧
    (∀ token now credential, token.length = 32 → credential ∈ credentials →
      decodeString credential.tokenSHA256 = some (sha256 (Base64Url.encode token)).1 →
      credential.expiresAt.after now = true →
      authenticate sha256 auth ⟨false, [bearing token]⟩ now = .ok credential.accountID) ∧
    ∀ bearer now account, authenticate sha256 auth bearer now = .ok account →
      validIdentifier account = true ∧ (start.add day).after now = true := by
  obtain ⟨hall, hdistinct, hlookup⟩ := newTokenAuthenticator_spec hauth
  have hgood : ∀ credential ∈ credentials, ∀ δ : Digest,
      decodeString credential.tokenSHA256 = some δ.1 → credential.Good start δ := by
    intro credential hmem δ hδ
    obtain ⟨δ', h⟩ := hall credential hmem
    rwa [show δ = δ' from Subtype.ext (Option.some.inj (hδ.symm.trans h.digest))]
  have hiff : ∀ bearer now account, authenticate sha256 auth bearer now = .ok account ↔
      ∃ token credential, bearer.Bears token ∧ credential ∈ credentials ∧
        decodeString credential.tokenSHA256 = some (sha256 (Base64Url.encode token)).1 ∧
        credential.expiresAt.after now = true ∧ credential.accountID = account := by
    intro bearer now account
    rw [authenticate_eq_ok]
    constructor
    · rintro ⟨token, credential, hbears, hfound, hexpiry, haccount⟩
      obtain ⟨hmem, h⟩ := (hlookup _ _).mp hfound
      exact ⟨token, credential, hbears, hmem, h.digest, hexpiry, haccount⟩
    · rintro ⟨token, credential, hbears, hmem, hdigest, hexpiry, haccount⟩
      exact ⟨token, credential, hbears, (hlookup _ _).mpr ⟨hmem, hgood _ hmem _ hdigest⟩, hexpiry,
        haccount⟩
  refine ⟨hiff, ?_, ?_, ?_⟩
  · refine hdistinct.imp_of_mem fun {c c'} hc hc' hne heq => ?_
    obtain ⟨δ, h⟩ := hall c hc
    exact hne δ h (hgood c' hc' δ (heq ▸ h.digest))
  · intro token now credential hlength hmem hdigest hexpiry
    exact (hiff _ _ _).mpr
      ⟨token, credential, bears_bearing hlength, hmem, hdigest, hexpiry, rfl⟩
  · intro bearer now account h
    obtain ⟨token, credential, -, hmem, hdigest, hexpiry, rfl⟩ := (hiff bearer now account).mp h
    obtain ⟨-, haccount, -, hbounded⟩ := hgood credential hmem _ hdigest
    refine ⟨haccount, ?_⟩
    simp only [Time.after, decide_eq_true_eq, decide_eq_false_iff_not] at hexpiry hbounded ⊢
    omega

/-! ### An instance -/

/-- The token of 32 zero bytes, for an hour. -/
def exampleCredential : TokenCredential where
  accountID := ascii "home"
  tokenSHA256 := ascii "0f007385b6f9d4b7eeb2748605afe1a984a0a3bfa3f014d09e2a784ce9e5cd1a"
  expiresAt := exampleTime 3600

/-- A token whose text is 43 times the letter E. -/
def neighbourToken : Text := (List.replicate 11 [0x10, 0x41, 0x04]).flatten.take 32

def neighbourCredential : TokenCredential where
  accountID := ascii "neighbour"
  tokenSHA256 := ascii "59ae66da6ed3bbc4459e26cbdb0cfff96cfb74742b386dae8bdd429dfe7b1f9c"
  expiresAt := exampleTime 1800

/-- SHA-256 at the texts of the two tokens. -/
def exampleSha256 (text : Text) : Digest :=
  if text = List.replicate 43 65 then
    exampleDigest 0x0f007385b6f9d4b7eeb2748605afe1a984a0a3bfa3f014d09e2a784ce9e5cd1a
  else if text = List.replicate 43 69 then
    exampleDigest 0x59ae66da6ed3bbc4459e26cbdb0cfff96cfb74742b386dae8bdd429dfe7b1f9c
  else exampleDigest 0

theorem authenticate_iff_home : ∃ auth,
    newTokenAuthenticator [exampleCredential] (exampleTime 0) = .ok auth ∧
    authenticate exampleSha256 auth ⟨false, [bearing (List.replicate 32 0)]⟩ (exampleTime 60) =
      .ok (ascii "home") := by
  have hauth : ∃ auth, newTokenAuthenticator [exampleCredential] (exampleTime 0) = .ok auth := by
    have hok : (newTokenAuthenticator [exampleCredential] (exampleTime 0)).isOk = true := by
      decide +kernel
    cases h : newTokenAuthenticator [exampleCredential] (exampleTime 0) with
    | error e => rw [h] at hok; cases hok
    | ok auth => exact ⟨auth, rfl⟩
  obtain ⟨auth, hauth⟩ := hauth
  refine ⟨auth, hauth, ?_⟩
  exact (authenticate_iff exampleSha256 [exampleCredential] (exampleTime 0) auth hauth).2.2.1
    (List.replicate 32 0) (exampleTime 60) exampleCredential (by decide)
    (List.mem_singleton_self _) (by decide +kernel) (by decide)

end CyberiaVpn.Api
