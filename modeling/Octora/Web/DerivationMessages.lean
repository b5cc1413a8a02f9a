import Octora.Library.JsonValue
import Octora.Web.StealthVault

namespace Octora.Web.Derivation
open JsonValue StealthVault

def newline : UInt16 := 10
def alphabet : JsString := literal "123456789ABCDEFGHJKLMNPQRSTUVWXYZabcdefghijkmnopqrstuvwxyz"

-- An address as web3.js prints it.
structure Base58 where
  text : JsString
  digits : ∀ unit ∈ text,unit ∈ alphabet

def join (texts : List JsString) : JsString := [newline].intercalate texts

-- stealthVault.ts
def buildDerivationMessageV1 (poolAddress : JsString) : JsString :=
  join [literal "Octora · Authorize private session",literal "",literal "Version: 1",literal "Pool: " ++ poolAddress,literal "",
    literal "This signature derives the private address for your position.",
    literal "It does not authorize any on-chain transaction or token transfer."]

def buildDerivationMessageV2 (poolAddress positionId : JsString) : JsString :=
  join [literal "Octora · Authorize private session",literal "",literal "Version: 2",literal "Pool: " ++ poolAddress,
    literal "Position: " ++ positionId,literal "",
    literal "This signature derives the private address for THIS SPECIFIC position.",
    literal "Different positions get different addresses so they can't be linked.",
    literal "It does not authorize any on-chain transaction or token transfer."]

def poolKey (mainWalletAddress poolAddress : JsString) : JsString :=
  literal "v1:" ++ mainWalletAddress ++ literal ":" ++ poolAddress

def positionKey (mainWalletAddress poolAddress positionId : JsString) : JsString :=
  literal "v2:" ++ mainWalletAddress ++ literal ":" ++ poolAddress ++ literal ":" ++ positionId

-- A request to derive a key, under either scheme.
inductive Request where
  | deriveStealthForPool (mainWalletAddress poolAddress : Base58)
  | deriveStealthForPosition (mainWalletAddress poolAddress : Base58) (positionId : JsString)

def Request.cacheKey : Request → JsString
  | .deriveStealthForPool mainWalletAddress poolAddress => poolKey mainWalletAddress.text poolAddress.text
  | .deriveStealthForPosition mainWalletAddress poolAddress positionId =>
    positionKey mainWalletAddress.text poolAddress.text positionId

-- As JavaScript strings. `TextEncoder` signs a lone surrogate as U+FFFD.
def Request.message : Request → JsString
  | .deriveStealthForPool _ poolAddress => buildDerivationMessageV1 poolAddress.text
  | .deriveStealthForPosition _ poolAddress positionId => buildDerivationMessageV2 poolAddress.text positionId

-- The texts on either side of the variable parts.
def heading : JsString := literal "Octora · Authorize private session" ++ newline :: newline :: []

def closingV1 : JsString := newline :: newline :: literal "This signature derives the private address for your position." ++
  newline :: literal "It does not authorize any on-chain transaction or token transfer."

def closingV2 : JsString :=
  newline :: newline :: literal "This signature derives the private address for THIS SPECIFIC position." ++
  newline :: literal "Different positions get different addresses so they can't be linked." ++
  newline :: literal "It does not authorize any on-chain transaction or token transfer."

theorem v1_shape (pool : JsString) : buildDerivationMessageV1 pool =
    heading ++ (literal "Version: 1" ++ newline :: (literal "Pool: " ++ (pool ++ closingV1))) := by
  simp only [buildDerivationMessageV1,join,heading,closingV1,List.intercalate,List.intersperse,List.flatten_cons,
    List.append_assoc,List.cons_append,List.nil_append,List.flatten_nil,List.append_nil,literal,ofChars,String.toList_empty,
    List.flatMap_nil]

theorem v2_shape (pool positionId : JsString) : buildDerivationMessageV2 pool positionId =
    heading ++ (literal "Version: 2" ++ newline :: (literal "Pool: " ++ (pool ++ newline :: (literal "Position: " ++
      (positionId ++ closingV2))))) := by
  simp only [buildDerivationMessageV2,join,heading,closingV2,List.intercalate,List.intersperse,List.flatten_cons,
    List.append_assoc,List.cons_append,List.nil_append,List.flatten_nil,List.append_nil,literal,ofChars,String.toList_empty,
    List.flatMap_nil]

theorem versions_apart (pool pool' positionId : JsString) :
    buildDerivationMessageV1 pool ≠ buildDerivationMessageV2 pool' positionId := by
  intro same
  rw [v1_shape,v2_shape,List.append_cancel_left_eq] at same
  have version := (List.append_inj same (by decide)).1
  exact absurd version (by decide)

-- On texts of whole characters these are the messages and keys of `StealthVault`.
theorem message_unitsV1 (pool : Text) :
    ofChars (StealthVault.buildDerivationMessageV1 pool) = buildDerivationMessageV1 (ofChars pool) := by
  simp only [StealthVault.buildDerivationMessageV1,lines,ofText,buildDerivationMessageV1,join,literal,ofChars,
    String.toList_intercalate,List.map_cons,List.map_nil,String.toList_append,String.toList_ofList,List.intercalate,
    List.intersperse,List.flatten_cons,List.flatten_nil,List.flatMap_append,List.append_nil,String.toList_empty,List.flatMap_nil]
  rfl

theorem message_unitsV2 (pool positionId : Text) :
    ofChars (StealthVault.buildDerivationMessageV2 pool positionId) =
      buildDerivationMessageV2 (ofChars pool) (ofChars positionId) := by
  simp only [StealthVault.buildDerivationMessageV2,lines,ofText,buildDerivationMessageV2,join,literal,ofChars,
    String.toList_intercalate,List.map_cons,List.map_nil,String.toList_append,String.toList_ofList,List.intercalate,
    List.intersperse,List.flatten_cons,List.flatten_nil,List.flatMap_append,List.append_nil,String.toList_empty,List.flatMap_nil]
  rfl

theorem key_unitsV1 (wallet pool : Address) :
    ofChars (StealthVault.poolKey wallet pool) = poolKey (ofChars wallet.text) (ofChars pool.text) := by
  simp only [StealthVault.poolKey,poolKey,literal,ofChars,List.flatMap_append,List.flatMap_cons,List.append_assoc]
  rfl

theorem key_unitsV2 (wallet pool : Address) (positionId : Text) :
    ofChars (StealthVault.positionKey wallet pool positionId) =
      positionKey (ofChars wallet.text) (ofChars pool.text) (ofChars positionId) := by
  simp only [StealthVault.positionKey,positionKey,literal,ofChars,List.flatMap_append,List.flatMap_cons,List.append_assoc]
  rfl

end Octora.Web.Derivation
