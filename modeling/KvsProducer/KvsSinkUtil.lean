import Mathlib.Data.Finset.Insert
import Mathlib.Data.Finset.Dedup
import Std.Data.ExtTreeMap.Lemmas
import KvsProducer.Gst

/-! Copying a `GstStructure` of strings into a C++ map, field by field. -/
namespace KvsProducer.KvsSinkUtil
open Gst

/-- The value of one field; the sink only tells strings from everything else.
A field of the string type may hold NULL. -/
inductive GValue where
  | string (text : String)
  | nullString
  | other
  deriving DecidableEq, Repr

abbrev GstStructure := List (String × GValue)

/-- `std::map<std::string, std::string>`. -/
abbrev StringMap := Std.ExtTreeMap String String compare

/-- Visitor of one field. `std::map::insert` keeps the value of a key that is
already there. A `std::string` made from NULL throws a `std::logic_error`. -/
def setParams (field : String) (value : GValue) (targetMap : StringMap) :
    Except Raised Bool × StringMap :=
  match value with
  | .other => (.ok false, targetMap)
  | .nullString => (.error .uncaught, targetMap)
  | .string text =>
    if text.isEmpty || field.isEmpty then (.ok false, targetMap)
    else (.ok true, targetMap.insertIfNew field text)

/-- `gst_structure_foreach` visits the fields in order and stops at the first FALSE. -/
def gstStructureForeach (visit : String → GValue → StringMap → Except Raised Bool × StringMap) :
    GstStructure → StringMap → Except Raised Bool × StringMap
  | [], map => (.ok true, map)
  | (field, value) :: rest, map =>
    match visit field value map with
    | (.ok true, visited) => gstStructureForeach visit rest visited
    | stopped => stopped

def gstructToMap (structure' : GstStructure) (userMap : StringMap) : Except Raised Bool × StringMap :=
  let temp : StringMap := ∅
  match gstStructureForeach setParams structure' userMap with
  -- the visitor was given the caller's map, so the temporary one is still empty here
  | (.ok true, visited) =>
    (.ok true, temp.foldl (fun map key value => map.insertIfNew key value) visited)
  | stopped => stopped

def iotGetCredentialEndpoint : String := "endpoint"
def certificatePath : String := "cert-path"
def privateKeyPath : String := "key-path"
def caCertPath : String := "ca-path"
def roleAliases : String := "role-aliases"
def iotThingName : String := "iot-thing-name"
def iotConnectionTimeout : String := "connection-timeout"
def iotCompletionTimeout : String := "completion-timeout"

/-- `iot_param_set`. -/
def iotParamSet : Finset String :=
  {iotGetCredentialEndpoint, certificatePath, privateKeyPath, caCertPath, roleAliases, iotThingName,
    iotConnectionTimeout, iotCompletionTimeout}

/-- `if (set.count(key) == 0) set.insert(key)`. -/
def insertIfAbsent (paramsKeySet : Finset String) (key : String) : Finset String :=
  if key ∈ paramsKeySet then paramsKeySet else insert key paramsKeySet

/-- The optional keys are only added to the set that is compared, not to the map. -/
def parseIotCredentialGstructure (structure' : GstStructure) (iotCertParams : StringMap) :
    Except Raised Bool × StringMap :=
  match gstructToMap structure' iotCertParams with
  | (.ok true, iotCertParams) =>
    let paramsKeySet := iotCertParams.keys.toFinset
    let paramsKeySet := insertIfAbsent paramsKeySet iotThingName
    let paramsKeySet := insertIfAbsent paramsKeySet iotConnectionTimeout
    let paramsKeySet := insertIfAbsent paramsKeySet iotCompletionTimeout
    (.ok (decide (paramsKeySet = iotParamSet)), iotCertParams)
  | stopped => stopped

end KvsProducer.KvsSinkUtil
