import Drafting.Number.Decimal

/-!
# Image service

A service answers a request for an image or fails to. Only an answer with the
status for success holds an image; of other answers the beginning is shown.
-/

namespace Drafting.ImageService

/-- What comes back from a request. -/
inductive Response where
  | answer (status : Int) (body : String)
  | timeout
  | unreachable (reason : String)
  | failure (reason : String)
  deriving DecidableEq, Repr

/-- Why there is no image. -/
inductive DownloadError where
  | timeout (waited : String)
  | unreachable (reason : String)
  | failure (reason : String)
  | refused (status : Int) (body : String)
  deriving DecidableEq, Repr

/-- How much of an answer without an image is shown. -/
def shownLength : Nat := 200

/-- The words for an error. -/
def DownloadError.message : DownloadError → String
  | .timeout waited => "Image service request timed out after " ++ waited ++ " seconds"
  | .unreachable reason => "Failed to connect to image service: " ++ reason
  | .failure reason => "Image service request failed: " ++ reason
  | .refused status body =>
    "Image service returned HTTP " ++ String.ofList (Number.integerText status) ++ ": " ++
      String.ofList (body.toList.take shownLength)

/-- The status of an answer that holds what was asked for. -/
def success : Int := 200

/-- How many seconds are waited for an answer unless something else is said. -/
def defaultTimeout : Int := 30

/-- The image in a response to a request that was given some seconds, as they are
shown. -/
def image (waited : String) : Response → Except DownloadError String
  | .answer status body => if status = success then .ok body else .error (.refused status body)
  | .timeout => .error (.timeout waited)
  | .unreachable reason => .error (.unreachable reason)
  | .failure reason => .error (.failure reason)

end Drafting.ImageService
