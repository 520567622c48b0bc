import ModelVault.Service.Status

/-! Why a client gives up. -/

namespace ModelVault

/-- What is wrong with a reply. -/
inductive ResponseFault where
  | noVersion
  | noData
  | noInfo
  | reported (text : String)
  deriving DecidableEq

/-- Why a client gives up. -/
inductive ClientError where
  /-- The address of the service is no address. -/
  | invalidEndpoint (endpoint : String)
  /-- The service cannot be reached. -/
  | transport
  /-- The service refused the request. -/
  | refused (status : Status)
  /-- The data that came does not have the digest of the version. -/
  | hashMismatch (modelId : String) (number : UInt32) (expected actual : String)
  /-- The reply is not one that the service gives. -/
  | invalidResponse (fault : ResponseFault)
  deriving DecidableEq

def ResponseFault.message : ResponseFault → String
  | noVersion => "reply does not include a `version_info`"
  | noData => "version data stream ended without any chunk"
  | noInfo => "no version info returned"
  | reported text => text

/-- The wording of an error, where it has one of its own. -/
def ClientError.message? : ClientError → Option String
  | invalidEndpoint endpoint => some ("Invalid endpoint " ++ Text.quoted endpoint)
  | transport => none
  | refused status => some status.message
  | hashMismatch modelId number expected actual =>
    some ("Hash mismatch for version " ++ toString number ++ " of model " ++ Text.quoted modelId ++
      ": expected " ++ expected ++ ", received " ++ actual)
  | invalidResponse fault => some ("Invalid response: " ++ fault.message)

end ModelVault
