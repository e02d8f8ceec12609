import SerenRouter.RouteNames
import SerenRouter.Proxy

/-! The gateway's credential. A request carries the key of one profile, and that key decides
the profile for which it is served. -/
namespace SerenRouter
open Kernel Kernel.Json Kernel.Json.JsonText

structure GatewayAuth where
  productionKey : List UInt8
  betaKey : Option (List UInt8)

def authorizationHeader : String := "authorization"

namespace GatewayAuth

def new (expectedKey : List UInt8) : GatewayAuth := ⟨expectedKey,none⟩

def withBetaKey (auth : GatewayAuth) (betaKey : List UInt8) : GatewayAuth := { auth with betaKey := some betaKey }

/-- A credential that is both keys belongs to no profile. -/
def profileFor (auth : GatewayAuth) (provided : List UInt8) : Option RoutingProfile :=
  match decide (auth.productionKey = provided), auth.betaKey.any (fun expected => decide (expected = provided)) with
  | true, false => some .production
  | false, true => some .beta
  | _, _ => none

def authorize (auth : GatewayAuth) (headers : HeaderMap) : Option RoutingProfile := do
  let value ← (headers.get authorizationHeader).bind HeaderMap.toStr
  let provided ← Text.stripPrefix value "Bearer "
  auth.profileFor (utf8 provided)

def key (auth : GatewayAuth) : RoutingProfile → Option (List UInt8)
  | .production => some auth.productionKey
  | .beta => auth.betaKey

theorem profileFor_iff (auth : GatewayAuth) (provided : List UInt8) (profile : RoutingProfile) :
    auth.profileFor provided = some profile ↔
      auth.key profile = some provided ∧ ∀ other, auth.key other = some provided → other = profile := by
  have both : (∀ other, auth.key other = some provided → other = profile) ↔
      (auth.productionKey = provided → profile = .production) ∧ (auth.betaKey = some provided → profile = .beta) := by
    constructor
    · intro only
      exact ⟨fun same => (only .production (by rw [key,same])).symm,fun same => (only .beta same).symm⟩
    · rintro ⟨production,beta⟩ other found
      cases other with
      | production => exact (production (Option.some.inj found)).symm
      | beta => exact (beta found).symm
  have held : auth.betaKey.any (fun expected => decide (expected = provided)) = decide (auth.betaKey = some provided) := by
    cases auth.betaKey <;> simp
  rw [both,profileFor,held]
  cases profile <;> by_cases production : auth.productionKey = provided <;>
    by_cases beta : auth.betaKey = some provided <;> simp [key,production,beta]

end GatewayAuth

theorem StatusCode.unauthorized_valid : 100 ≤ 401 ∧ 401 < 1000 := by decide

def StatusCode.unauthorized : StatusCode := ⟨401,unauthorized_valid⟩

def unauthorized : Reply :=
  jsonReply .unauthorized (.object [("error",.object [("message",.string "unauthorized")])])

private theorem encoded_byte (byte : UInt8) (small : byte.toNat < 128) :
    String.utf8EncodeChar (Char.ofNat byte.toNat) = [byte] := by
  have code : (Char.ofNat byte.toNat).toNat = byte.toNat := by
    rw [Char.ofNat,dif_pos (Or.inl (by omega))]
    rfl
  unfold String.utf8EncodeChar
  refine (if_pos (by change (Char.ofNat byte.toNat).toNat ≤ 127; omega)).trans ?_
  change [UInt8.ofNat (Char.ofNat byte.toNat).toNat] = [byte]
  rw [code,UInt8.ofNat_toNat]

/-- The bytes of a text that was read from a header are those of the header. -/
theorem utf8_toStr (value : List UInt8) (text : String) (read : HeaderMap.toStr value = some text) :
    utf8 text = value := by
  unfold HeaderMap.toStr at read
  split at read
  · rename_i visible
    cases read
    rw [utf8_ofList,List.flatMap_map]
    refine (List.flatMap_congr (fun byte member => ?_)).trans (List.flatMap_singleton' value)
    have checked := List.all_eq_true.mp visible byte member
    apply encoded_byte
    simp [UInt8.le_iff_toNat_le,UInt8.lt_iff_toNat_lt,← UInt8.toNat_inj] at checked
    omega
  · cases read

/-- A request is served for a profile exactly when its first authorization header holds the profile's key as a
visible text behind the scheme, and no other profile has that key. -/
theorem authorize_iff (auth : GatewayAuth) (headers : HeaderMap) (profile : RoutingProfile) :
    auth.authorize headers = some profile ↔
      ∃ credential : String, headers.get authorizationHeader = some (utf8 ("Bearer " ++ credential)) ∧
        credential.toList.all isVisible = true ∧ auth.key profile = some (utf8 credential) ∧
        ∀ other, auth.key other = some (utf8 credential) → other = profile := by
  unfold GatewayAuth.authorize
  constructor
  · intro granted
    obtain ⟨text,read,granted⟩ := Option.bind_eq_some_iff.mp granted
    obtain ⟨value,present,read⟩ := Option.bind_eq_some_iff.mp read
    obtain ⟨credential,stripped,owned⟩ := Option.bind_eq_some_iff.mp granted
    obtain rfl := (Text.stripPrefix_success _ _ _).mp stripped
    have bytes := utf8_toStr value _ read
    rw [← bytes,toStr_utf8] at read
    have visible : ("Bearer " ++ credential).toList.all isVisible = true := by
      by_contra hidden
      rw [if_neg hidden] at read
      cases read
    rw [String.toList_append,List.all_append,Bool.and_eq_true] at visible
    exact ⟨credential,by rw [bytes,present],visible.2,(auth.profileFor_iff _ _).mp owned⟩
  · rintro ⟨credential,present,visible,granted⟩
    have spelled : ("Bearer " ++ credential).toList.all isVisible = true := by
      rw [String.toList_append,List.all_append,visible]
      decide
    rw [present,Option.bind_some,toStr_utf8,if_pos spelled]
    change (Text.stripPrefix ("Bearer " ++ credential) "Bearer ").bind _ = _
    rw [(Text.stripPrefix_success _ _ _).mpr rfl]
    exact (auth.profileFor_iff _ _).mpr granted

end SerenRouter
