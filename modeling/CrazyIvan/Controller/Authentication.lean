import CrazyIvan.Controller.SceneHandlerFactory
import Mathlib.Logic.Equiv.Basic

/-!
Which requests get past the authentication of the factory.

* `userAndPassword_eq`: the two parts that the readings take out of the decoded
  credentials.
* `authenticated_iff`: a request gets past exactly with the configured login, as
  long as credentials with the configured password name the configured user, on
  one line and with a colon. The account manager compares the password only.
-/

namespace CrazyIvan

open Lines

/-! ### The parts of the credentials -/

/-- The first line of a text. -/
def firstLine (text : String) : List Char := text.toList.takeWhile (· ≠ '\n')

/-- The part of the first line in front of the first colon, all of it if there is
none. -/
def userPart (text : String) : String := String.ofList ((firstLine text).takeWhile (· ≠ ':'))

/-- The part of the first line behind the first colon, nothing if there is none. -/
def passwordPart (text : String) : String :=
  String.ofList ((firstLine text).dropWhile (· ≠ ':')).tail

/-- A text split at the first colon. -/
def splitAtColon (text : String) : Option (String × String) :=
  match text.toList.dropWhile (· ≠ ':') with
  | [] => none
  | _ :: rest => some (String.ofList (text.toList.takeWhile (· ≠ ':')), String.ofList rest)

/-- The first reading takes the text up to the delimiter. -/
lemma orEmpty_getline (delim : Char) (l : List Char) :
    orEmpty (getline delim ⟨l, true⟩).1 = l.takeWhile (· ≠ delim) := by
  by_cases hne : l = []
  · subst hne
    rfl
  obtain hl | ⟨line, rest, hline, rfl⟩ := exists_line delim l
  · rw [getline_last hne hl, takeWhile_eq_self hl]
    rfl
  · rw [getline_line hline, takeWhile_line hline]
    rfl

lemma userAndPassword_eq (text : String) :
    userAndPassword text = (userPart text, passwordPart text) := by
  have hline : '\n' ∉ firstLine text := fun h => by
    have hne := List.mem_takeWhile_imp h
    simp at hne
  rw [userAndPassword, orEmpty_getline, userPart, passwordPart, ← firstLine]
  generalize firstLine text = line at hline
  by_cases hne : line = []
  · subst hne
    rfl
  obtain hcolon | ⟨user, rest, huser, rfl⟩ := exists_line ':' line
  · simp only [getline_last hne hcolon, takeWhile_eq_self hcolon, dropWhile_eq_nil hcolon]
    rfl
  · have hrest : '\n' ∉ rest := fun h => hline (by simp [h])
    simp only [getline_line huser, takeWhile_line huser, dropWhile_line huser, List.tail_cons]
    rw [orEmpty_getline, takeWhile_eq_self hrest]
    rfl

/-! ### Logins -/

/-- The request carries the login. -/
def CarriesLogin (decode : String → String) (un pw : String) (request : HttpRequest) : Prop :=
  ∃ authInfo, request.credentials = some ("Basic", authInfo) ∧
    splitAtColon (decode authInfo) = some (un, pw)

/-- Credentials with the password name the user, on one line and with a colon. -/
def NamesUser (decode : String → String) (un pw : String) (request : HttpRequest) : Prop :=
  ∀ authInfo, request.credentials = some ("Basic", authInfo) →
    passwordPart (decode authInfo) = pw →
      userPart (decode authInfo) = un ∧ ':' ∈ (decode authInfo).toList ∧
        '\n' ∉ (decode authInfo).toList

/-- What is compared is the password. -/
lemma authenticationFailure_eq_false_iff {hmac : String → String → String}
    (hinj : ∀ key, Function.Injective (hmac key)) (decode : String → String)
    (un pw shaPw : String) (request : HttpRequest) :
    authenticationFailure decode (some (.new hmac un pw shaPw)) request = false ↔
      ∃ authInfo, request.credentials = some ("Basic", authInfo) ∧
        passwordPart (decode authInfo) = pw := by
  cases hcred : request.credentials with
  | none => simp [authenticationFailure, hcred]
  | some credentials =>
      obtain ⟨scheme, authInfo⟩ := credentials
      by_cases hscheme : scheme = "Basic"
      · subst hscheme
        simp [authenticationFailure, hcred, SingleAccountManager.new, userAndPassword_eq,
          SingleAccountManager.authenticateUser, (hinj shaPw).eq_iff]
      · simp [authenticationFailure, hcred, SingleAccountManager.new, hscheme]

lemma splitAtColon_eq_some_iff {text un pw : String} :
    splitAtColon text = some (un, pw) ↔
      ':' ∉ un.toList ∧ text.toList = un.toList ++ ':' :: pw.toList := by
  rw [splitAtColon]
  constructor
  · intro h
    obtain hcolon | ⟨user, rest, huser, heq⟩ := exists_line ':' text.toList
    · rw [dropWhile_eq_nil hcolon] at h
      cases h
    · simp only [heq, dropWhile_line huser, takeWhile_line huser, Option.some.injEq,
        Prod.mk.injEq] at h
      obtain ⟨rfl, rfl⟩ := h
      simpa using ⟨huser, heq⟩
  · rintro ⟨hun, heq⟩
    simp only [heq, dropWhile_line hun, takeWhile_line hun]
    simp

/-- A request gets past the authentication exactly with the login, if and only if
its credentials name the user along with the password. -/
theorem authenticated_iff {hmac : String → String → String}
    (hinj : ∀ key, Function.Injective (hmac key)) {un pw : String}
    (hun : '\n' ∉ un.toList ∧ ':' ∉ un.toList) (hpw : '\n' ∉ pw.toList)
    (decode : String → String) (shaPw : String) (request : HttpRequest) :
    (authenticationFailure decode (some (.new hmac un pw shaPw)) request = false ↔
      CarriesLogin decode un pw request) ↔ NamesUser decode un pw request := by
  rw [authenticationFailure_eq_false_iff hinj]
  have hparts : ∀ authInfo, splitAtColon (decode authInfo) = some (un, pw) →
      userPart (decode authInfo) = un ∧ passwordPart (decode authInfo) = pw ∧
        ':' ∈ (decode authInfo).toList ∧ '\n' ∉ (decode authInfo).toList := by
    intro authInfo h
    obtain ⟨-, heq⟩ := splitAtColon_eq_some_iff.mp h
    have hline : '\n' ∉ (decode authInfo).toList := by
      rw [heq]
      simp [hun.1, hpw]
    rw [userPart, passwordPart, firstLine, takeWhile_eq_self hline, heq, takeWhile_line hun.2,
      dropWhile_line hun.2]
    simpa [hun.1] using hpw
  constructor
  · intro h authInfo hcred hpassword
    obtain ⟨authInfo', hcred', hsplit⟩ := h.mp ⟨authInfo, hcred, hpassword⟩
    rw [hcred] at hcred'
    obtain rfl : authInfo = authInfo' := (Prod.mk.inj (Option.some.inj hcred')).2
    obtain ⟨huser, -, hcolon, hline⟩ := hparts authInfo hsplit
    exact ⟨huser, hcolon, hline⟩
  · intro h
    refine ⟨fun ⟨authInfo, hcred, hpassword⟩ => ⟨authInfo, hcred, ?_⟩,
      fun ⟨authInfo, hcred, hsplit⟩ => ⟨authInfo, hcred, (hparts authInfo hsplit).2.1⟩⟩
    obtain ⟨huser, hcolon, hline⟩ := h authInfo hcred hpassword
    rw [userPart, firstLine, takeWhile_eq_self hline] at huser
    rw [passwordPart, firstLine, takeWhile_eq_self hline] at hpassword
    obtain hnone | ⟨user, rest, huser', heq⟩ := exists_line ':' (decode authInfo).toList
    · exact absurd hcolon hnone
    · rw [heq, takeWhile_line huser'] at huser
      rw [heq, dropWhile_line huser', List.tail_cons] at hpassword
      rw [splitAtColon_eq_some_iff, ← huser, ← hpassword]
      simpa using ⟨huser', heq⟩

/-- The texts of two headers. -/
def decodeLogin (authInfo : String) : String :=
  if authInfo = "YmFkOnBhc3N3b3Jk" then "bad:password"
  else if authInfo = "dGVzdDpwYXNzd29yZA==" then "test:password" else ""

/-- The hash of one password under one key. -/
def hashLogin (_key : String) : String → String :=
  Equiv.swap "password" "74c3da3c700af365698fd683ba931451"

/-- Another user, with the password. -/
def badUser : HttpRequest :=
  { method := "GET", uri := "/health", credentials := some ("Basic", "YmFkOnBhc3N3b3Jk") }

theorem authenticated_badUser :
    authenticationFailure decodeLogin (some (.new hashLogin "test" "password" "passwd")) badUser
        = false ∧ ¬ CarriesLogin decodeLogin "test" "password" badUser := by
  constructor
  · decide
  · rintro ⟨authInfo, hcred, hsplit⟩
    obtain rfl : "YmFkOnBhc3N3b3Jk" = authInfo := (Prod.mk.inj (Option.some.inj hcred)).2
    revert hsplit
    decide

/-- The user with the password. -/
def goodUser : HttpRequest :=
  { method := "GET", uri := "/health", credentials := some ("Basic", "dGVzdDpwYXNzd29yZA==") }

theorem authenticated_goodUser :
    authenticationFailure decodeLogin (some (.new hashLogin "test" "password" "passwd")) goodUser
        = false ↔ CarriesLogin decodeLogin "test" "password" goodUser := by
  refine (authenticated_iff (fun _ => (Equiv.swap _ _).injective) (by decide) (by decide)
    decodeLogin "passwd" goodUser).mpr fun authInfo hcred _ => ?_
  obtain rfl : "dGVzdDpwYXNzd29yZA==" = authInfo := (Prod.mk.inj (Option.some.inj hcred)).2
  decide

end CrazyIvan
