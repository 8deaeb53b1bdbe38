import RestKit.Auth.Authorizer
import RestKit.Proofs.Json.Written
import RestKit.Proofs.Text.Base64
import RestKit.Proofs.Text.Blank
/-!
# Tokens that are issued are accepted

Claims that were signed under a secret come back from the token exactly as they were, whatever the
texts in them, until they expire; and an authorizer under whose secret the signature is another one
refuses the token (`issued_token_authorizes`). On the way back, the token is found in its header
(`bearer_bearing`) and cut at its last two dots (`splitLast_concat`), and its payload is read twice,
once for the claims and once for those with a meaning of their own (`readPart_claims`,
`readPart_registered`).
-/
namespace RestKit.Auth

/-- Both times are signed 64-bit numbers. -/
structure Claims.InRange (c : Claims) : Prop where
  exp : -9223372036854775808 ≤ c.exp ∧ c.exp ≤ 9223372036854775807
  iat : -9223372036854775808 ≤ c.iat ∧ c.iat ≤ 9223372036854775807

/-- The header value that presents a token. -/
def bearing (token : String) : List UInt8 := Utf8.encode ("Bearer " ++ token)

/-! ## The header -/

section

variable {token : String} {headers : Http.Headers}

/-- Characters that a header shows as they are, other than blanks. -/
def Plain (token : String) : Prop :=
  ∀ ch ∈ token.toList, 32 < ch.toNat ∧ ch.toNat < 127 ∧ Text.isBlank ch = false

theorem trim_of_plain (h : Plain token) : Text.trim token = token := by
  have hfront : Text.dropBlanks token.toList = token.toList := by
    rw [Text.dropBlanks, List.dropWhile_eq_self_iff]
    intro hpos
    simpa using (h _ (List.getElem_mem hpos)).2.2
  have hback : Text.dropBlanks token.toList.reverse = token.toList.reverse := by
    rw [Text.dropBlanks, List.dropWhile_eq_self_iff]
    intro hpos
    simpa using (h _ (List.mem_reverse.1 (List.getElem_mem hpos))).2.2
  rw [Text.trim, Text.trimChars, hfront, hback, List.reverse_reverse, String.ofList_toList]

theorem ascii_of_plain (h : Plain token) : ∀ ch ∈ ("Bearer " ++ token).toList,
    32 ≤ ch.toNat ∧ ch.toNat < 127 := by
  intro ch hch
  rw [String.toList_append] at hch
  rcases List.mem_append.1 hch with hch | hch
  · have hscheme : ∀ ch ∈ "Bearer ".toList, 32 ≤ ch.toNat ∧ ch.toNat < 127 := by simp
    exact hscheme ch hch
  · exact ⟨(h ch hch).1.le, (h ch hch).2.1⟩

theorem bearing_eq (h : Plain token) :
    bearing token = ("Bearer " ++ token).toList.map fun ch => UInt8.ofNat ch.toNat := by
  have hascii := ascii_of_plain h
  rw [bearing, ← String.ofList_toList (s := "Bearer " ++ token), Utf8.encode_ascii]
  · rw [String.toList_ofList]
  · intro ch hch
    have := hascii ch hch
    omega

/-- A token is found in the header that presents it. -/
theorem bearer_bearing (h : Plain token) (hne : token ≠ "")
    (hheader : headers.first? "authorization" = some (bearing token)) :
    bearer headers = .ok token := by
  have hascii := ascii_of_plain h
  have hvisible : Http.Headers.visible? (bearing token) = some ("Bearer " ++ token) := by
    rw [bearing_eq h, Http.Headers.visible?, if_pos, List.map_map]
    · rw [List.map_congr_left (g := id), List.map_id, String.ofList_toList]
      intro ch hch
      have := hascii ch hch
      rw [Function.comp_apply, Utf8.toNat_ofNat_byte (by omega), Char.ofNat_toNat, id]
    · rw [List.all_map, List.all_eq_true]
      intro ch hch
      have := hascii ch hch
      simp only [Function.comp_apply, Http.isVisible, Bool.or_eq_true, Bool.and_eq_true,
        decide_eq_true_eq, UInt8.le_iff_toNat_le, UInt8.lt_iff_toNat_lt,
        Utf8.toNat_ofNat_byte (show ch.toNat < 256 by omega)]
      exact .inl this
  have hafter : afterScheme ("Bearer " ++ token) = some token := by
    rw [afterScheme, String.toList_append]
    simp
  rw [bearer, hheader]
  dsimp only
  rw [hvisible]
  dsimp only
  rw [hafter]
  dsimp only
  rw [trim_of_plain h, if_neg (by simpa using hne)]

/-- The header that presents a token is a legal one. -/
theorem first?_ofPairs (h : Plain token) :
    (Http.Headers.ofPairs [("authorization", "Bearer " ++ token)]).first? "authorization" =
      some (bearing token) := by
  have hascii := ascii_of_plain h
  have hname : Http.isToken "authorization" = true := by decide +kernel
  have hlower : Text.asciiLower "authorization" = "authorization" := by decide +kernel
  have hlegal : (bearing token).all Http.isValueByte = true := by
    rw [bearing_eq h, List.all_map, List.all_eq_true]
    intro ch hch
    have := hascii ch hch
    simp only [Function.comp_apply, Http.isValueByte, Bool.or_eq_true, Bool.and_eq_true,
      decide_eq_true_eq, UInt8.le_iff_toNat_le, ne_eq, ← UInt8.toNat_inj,
      Utf8.toNat_ofNat_byte (show ch.toNat < 256 by omega)]
    refine .inl ⟨this.1, ?_⟩
    change ch.toNat ≠ 127
    omega
  have hpairs : Http.Headers.ofPairs [("authorization", "Bearer " ++ token)] =
      [("authorization", bearing token)] := by
    rw [bearing] at hlegal ⊢
    simp only [Http.Headers.ofPairs, List.filterMap_cons, List.filterMap_nil, hname, hlegal,
      Bool.and_self, if_true, hlower]
  rw [hpairs, Http.Headers.first?, hlower]
  exact List.lookup_cons_self

end

namespace Jwt

variable {c : Claims} {secret other : String} {now : Nat}

/-! ## The parts -/

/-- A text is cut at its last dot. -/
theorem splitLast_concat {front back : List Char} (h : '.' ∉ back) :
    splitLast (front ++ '.' :: back) = some (front, back) := by
  have hdot : ∀ ch ∈ back.reverse, decide (ch ≠ '.') = true := fun ch hch =>
    decide_eq_true fun heq => h (heq ▸ List.mem_reverse.1 hch)
  have hreverse : (front ++ '.' :: back).reverse = back.reverse ++ '.' :: front.reverse := by simp
  rw [splitLast, hreverse]
  rw [List.dropWhile_append_of_pos hdot, List.takeWhile_append_of_pos hdot,
    List.dropWhile_cons_of_neg (by simp), List.takeWhile_cons_of_neg (by simp)]
  simp

theorem notMem_encode (bytes : List UInt8) : '.' ∉ Base64.encode bytes := fun h =>
  (Base64.of_mem_alphabet _ (Base64.mem_alphabet_of_mem_encode h)).2.2.2 rfl

/-- The text of a token. -/
def tokenText (c : Claims) (secret : String) : String :=
  String.ofList (message c ++ '.' :: sign secret (message c))

theorem issue_eq (h : secret ≠ "") : issue c secret = .ok (tokenText c secret) := by
  rw [issue, if_neg (by simpa using h), tokenText]

theorem plain_tokenText : Plain (tokenText c secret) := by
  intro ch hch
  rw [tokenText, String.toList_ofList, message, sign, List.append_assoc] at hch
  have hsymbol {bytes : List UInt8} (h : ch ∈ Base64.encode bytes) :
      32 < ch.toNat ∧ ch.toNat < 127 ∧ Text.isBlank ch = false := by
    obtain ⟨hlow, hhigh, hblank, -⟩ :=
      Base64.of_mem_alphabet ch (Base64.mem_alphabet_of_mem_encode h)
    exact ⟨hlow, hhigh, hblank⟩
  have hdot (h : ch = '.') : 32 < ch.toNat ∧ ch.toNat < 127 ∧ Text.isBlank ch = false := by
    subst h
    decide
  rcases List.mem_append.1 hch with hch | hch
  · exact hsymbol hch
  · rcases List.mem_append.1 hch with hch | hch
    · rcases List.mem_cons.1 hch with hch | hch
      · exact hdot hch
      · exact hsymbol hch
    · rcases List.mem_cons.1 hch with hch | hch
      · exact hdot hch
      · exact hsymbol hch

theorem tokenText_ne_empty : tokenText c secret ≠ "" := by
  intro h
  rw [tokenText, ← String.toList_inj, String.toList_ofList] at h
  simp at h

/-! ## The payload -/

/-- A part of a token is read as the text that it was made of. -/
theorem readPart_encodeText (s : Json.Shape) (text : String) :
    readPart s (encodeText text) = (Json.readAs s (Utf8.encode text)).mapError .json := by
  rw [readPart, encodeText, Base64.decode_encode]
  rfl

theorem readPart_header :
    ∃ h, readPart headerShape (encodeText header.compact) = .ok h ∧
      h.get? "alg" = some (.string algorithm) := by
  have hread : (readPart headerShape (encodeText header.compact)).map (·.get? "alg") =
      .ok (some (.string algorithm)) := by
    rw [readPart_encodeText]
    decide +kernel
  exact map_eq_ok.1 hread

/-- The entries that claims are written as. -/
def entries (c : Claims) : List (String × Json) :=
  [("sub", .string c.sub), ("role", .string c.role), ("user_type", .string c.userType),
    ("exp", .int c.exp), ("iat", .int c.iat)]

theorem readable_entries (hc : c.InRange) : ∀ e ∈ entries c, e.2.Readable := by
  have hexp : (Json.int c.exp).Readable := .int c.exp hc.exp.1 (by have := hc.exp.2; omega)
  have hiat : (Json.int c.iat).Readable := .int c.iat hc.iat.1 (by have := hc.iat.2; omega)
  simp only [entries, List.forall_mem_cons]
  exact ⟨.string _, .string _, .string _, hexp, hiat, List.forall_mem_nil _⟩

theorem keys_entries (c : Claims) : ((entries c).map (·.1)).Nodup := by
  change ["sub", "role", "user_type", "exp", "iat"].Nodup
  decide

/-- The payload is read as the claims. -/
theorem readPart_claims (hc : c.InRange) :
    readPart claimsShape (encodeText c.toJson.compact) = .ok (.ofPairs (entries c)) := by
  have hread : Json.readAs claimsShape (Json.bytesOf (.object (entries c))) =
      .ok (.ofPairs (entries c)) := by
    refine Json.readAs_object (readable_entries hc) ?_ (keys_entries c) rfl
    have hexp : Json.Suits .int64 (.int c.exp) := .int64 c.exp hc.exp.1 hc.exp.2
    have hiat : Json.Suits .int64 (.int c.iat) := .int64 c.iat hc.iat.1 hc.iat.2
    simp only [entries, List.forall_mem_cons]
    refine ⟨?_, ?_, ?_, ?_, ?_, List.forall_mem_nil _⟩ <;> rintro s d ⟨⟩
    exacts [.text _, .text _, .text _, hexp, hiat]
  rw [readPart_encodeText]
  exact congrArg (Except.mapError Fault.json) hread

/-- The claims with a meaning of their own, as they are read from the payload. -/
def registered (c : Claims) : Json :=
  .ofPairs [("exp", .int c.exp), ("nbf", .null), ("sub", .string c.sub), ("iss", .null),
    ("aud", .null)]

theorem readPart_registered (hc : c.InRange) :
    readPart registeredShape (encodeText c.toJson.compact) = .ok (registered c) := by
  have hread : Json.readAs registeredShape (Json.bytesOf (.object (entries c))) =
      .ok (registered c) := by
    refine Json.readAs_object (readable_entries hc) ?_ (keys_entries c) rfl
    simp only [entries, List.forall_mem_cons]
    refine ⟨?_, ?_, ?_, ?_, ?_, List.forall_mem_nil _⟩ <;> rintro s d ⟨⟩
    exacts [.any _, .any _]
  rw [readPart_encodeText]
  exact congrArg (Except.mapError Fault.json) hread

theorem claimsOf_entries (hc : c.InRange) : claimsOf (.ofPairs (entries c)) = c := by
  have hsub : (Json.ofPairs (entries c)).get? "sub" = some (.string c.sub) := rfl
  have hrole : (Json.ofPairs (entries c)).get? "role" = some (.string c.role) := rfl
  have htype : (Json.ofPairs (entries c)).get? "user_type" = some (.string c.userType) := rfl
  have hexp : (Json.ofPairs (entries c)).get? "exp" = some (.int c.exp) := rfl
  have hiat : (Json.ofPairs (entries c)).get? "iat" = some (.int c.iat) := rfl
  have hint {n : Int} (h : -9223372036854775808 ≤ n ∧ n ≤ 9223372036854775807) :
      (Json.int n).int64? = some n := if_pos h
  rw [claimsOf]
  simp only [hsub, hrole, htype, hexp, hiat, Option.bind_some, hint hc.exp, hint hc.iat]
  rfl

/-! ## Validation -/

/-- A token is checked for its signature, and then for its expiry. -/
theorem validate_tokenText (hc : c.InRange) (hother : other ≠ "") :
    validate other now (tokenText c secret) =
      if sign secret (message c) ≠ sign other (message c) then .error .signature
      else (checkClaims now c (registered c)).map fun _ => c := by
  obtain ⟨h, hheader, halgorithm⟩ := readPart_header
  have hcut : splitLast (tokenText c secret).toList =
      some (message c, sign secret (message c)) := by
    rw [tokenText, String.toList_ofList]
    exact splitLast_concat (notMem_encode _)
  have hparts : splitLast (message c) =
      some (encodeText header.compact, encodeText c.toJson.compact) :=
    splitLast_concat (notMem_encode _)
  rw [validate, if_neg (by simpa using hother), hcut]
  dsimp only
  rw [hparts]
  dsimp only
  rw [hheader, ok_bind, if_neg (by simpa using halgorithm)]
  split
  · rfl
  · rw [readPart_claims hc, ok_bind, claimsOf_entries hc, readPart_registered hc, ok_bind]
    cases checkClaims now c (registered c) <;> rfl

/-- A time that is not too far back is no reason to refuse claims. -/
theorem checkClaims_registered (h : ((now - leeway : Nat) : Int) ≤ c.exp) :
    checkClaims now c (registered c) = .ok () := by
  have haudience : (registered c).get? "aud" = some .null := rfl
  rw [checkClaims, if_neg (by omega), if_neg (by omega), haudience]
  rfl

theorem validate_own (hc : c.InRange) (hsecret : secret ≠ "")
    (h : ((now - leeway : Nat) : Int) ≤ c.exp) :
    validate secret now (tokenText c secret) = .ok c := by
  rw [validate_tokenText hc hsecret, if_neg (by simp), checkClaims_registered h]
  rfl

/-- A token that was signed under another secret is refused, unless both sign it alike. -/
theorem validate_other (hc : c.InRange)
    (h : Digest.hmac (Utf8.encode other) (Utf8.encode (String.ofList (message c))) ≠
      Digest.hmac (Utf8.encode secret) (Utf8.encode (String.ofList (message c)))) :
    validate other now (tokenText c secret) =
      .error (if other = "" then .missingSecret else .signature) := by
  by_cases hother : other = ""
  · rw [if_pos hother, validate, if_pos (by simpa using hother)]
    rfl
  · have hsign : sign secret (message c) ≠ sign other (message c) := fun heq =>
      h (Base64.encode_inj.1 heq).symm
    rw [if_neg hother, validate_tokenText hc hother, if_pos hsign]

end Jwt

/-! ## Authorizers -/

section

variable {c : Claims} {secret other : String} {ctx : Context}

theorem jwt_eq_done {a : Authorization} :
    Authorizer.jwt secret ctx = .done a ↔ authorize secret ctx = .ok a := by
  cases h : authorize secret ctx <;> simp [Authorizer.jwt, Outcome.ofExcept, h]

theorem jwt_eq_refused {e : ApiError} :
    Authorizer.jwt secret ctx = .refused e ↔ authorize secret ctx = .error e := by
  cases h : authorize secret ctx <;> simp [Authorizer.jwt, Outcome.ofExcept, h]

/-- An authorizer does what the validation says. -/
theorem authorize_tokenText
    (hheader : ctx.headers.first? "authorization" = some (bearing (Jwt.tokenText c secret))) :
    authorize other ctx =
      match Jwt.validate other (ctx.now / nanosPerSecond) (Jwt.tokenText c secret) with
      | .ok claims => .ok (.ofClaims claims)
      | .error f => .error (.unauthorized f.message) := by
  rw [authorize, bearer_bearing Jwt.plain_tokenText Jwt.tokenText_ne_empty hheader]
  simp only [Except.mapError, ok_bind]
  cases Jwt.validate other (ctx.now / nanosPerSecond) (Jwt.tokenText c secret) <;> rfl

/-- Claims are issued as a token that a header can carry. A request that presents it comes with
these claims, as long as they have not expired: its principal and its token are theirs. With a
secret under which the signature is another one, the request is refused. -/
theorem issued_token_authorizes (hc : c.InRange) (hsecret : secret ≠ "") :
    ∃ token, Jwt.issue c secret = .ok token ∧
      (Http.Headers.ofPairs [("authorization", "Bearer " ++ token)]).first? "authorization" =
        some (bearing token) ∧
      ∀ ctx : Context, ctx.headers.first? "authorization" = some (bearing token) →
        bearer ctx.headers = .ok token ∧
        (((ctx.now / nanosPerSecond - Jwt.leeway : Nat) : Int) ≤ c.exp →
          Jwt.validate secret (ctx.now / nanosPerSecond) token = .ok c ∧
          ∃ expiresAt, authorize secret ctx = .ok {
            principal := some { id := c.sub, role := c.role }
            token := some
              { isValid := true, userId := c.sub, userType := c.userType, expiresAt } }) ∧
        ∀ other,
          Digest.hmac (Utf8.encode other) (Utf8.encode (String.ofList (Jwt.message c))) ≠
            Digest.hmac (Utf8.encode secret) (Utf8.encode (String.ofList (Jwt.message c))) →
          ∃ f, Jwt.validate other (ctx.now / nanosPerSecond) token = .error f ∧
            authorize other ctx = .error (.unauthorized f.message) := by
  refine ⟨Jwt.tokenText c secret, Jwt.issue_eq hsecret, first?_ofPairs Jwt.plain_tokenText, ?_⟩
  intro ctx hheader
  refine ⟨bearer_bearing Jwt.plain_tokenText Jwt.tokenText_ne_empty hheader, ?_, ?_⟩
  · intro hexp
    have hvalid := Jwt.validate_own hc hsecret hexp
    refine ⟨hvalid, Time.Instant.ofSeconds? c.exp, ?_⟩
    rw [authorize_tokenText hheader, hvalid]
    rfl
  · intro other hother
    have hinvalid : Jwt.validate other (ctx.now / nanosPerSecond) _ = .error _ :=
      Jwt.validate_other hc hother
    refine ⟨_, hinvalid, ?_⟩
    rw [authorize_tokenText hheader, hinvalid]

end

/-- Claims with texts that need escapes. -/
def quotedClaims : Claims where
  sub := "\"ö\"\n"
  role := "admin"
  userType := "漢\\𝄞"
  exp := 100
  iat := -5

/-- A request that presents a token in the 160th second. -/
def presenting (token : String) : Context where
  config := .development
  now := 160 * nanosPerSecond
  headers := [("authorization", bearing token)]

theorem issued_token_authorizes_quoted :
    quotedClaims.InRange ∧ "key" ≠ "" ∧
      ∃ token, Jwt.issue quotedClaims "key" = .ok token ∧
        Jwt.validate "key" 160 token = .ok quotedClaims ∧
        ∃ f, authorize "other" (presenting token) = .error f := by
  have inRange : quotedClaims.InRange := ⟨by decide, by decide⟩
  have hsecret : "key" ≠ "" := by decide
  have hother : Digest.hmac (Utf8.encode "other")
        (Utf8.encode (String.ofList (Jwt.message quotedClaims))) ≠
      Digest.hmac (Utf8.encode "key")
        (Utf8.encode (String.ofList (Jwt.message quotedClaims))) := by
    decide +kernel
  obtain ⟨token, hissue, -, hctx⟩ := issued_token_authorizes inRange hsecret
  obtain ⟨-, hown, hothers⟩ := hctx (presenting token) rfl
  have hclock : (presenting token).now / nanosPerSecond = 160 :=
    Nat.mul_div_cancel 160 (by decide)
  rw [hclock] at hown
  obtain ⟨f, -, hrefused⟩ := hothers "other" hother
  exact ⟨inRange, hsecret, token, hissue, (hown (by decide)).1, _, hrefused⟩

end RestKit.Auth
