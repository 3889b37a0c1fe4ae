import Linkage.Files
import Linkage.Instant
import Linkage.Json.Reader
import Linkage.Json.Reading
import Linkage.Json.Writer
import Linkage.Sha256

/-! Listings of versions that were fetched before, one file for each library, named by a hash of its key. -/

namespace Linkage

/-- The versions of a library at the time when they were fetched. -/
structure Listing where
  module : String
  cachedAt : Instant
  versions : List Version
  deriving DecidableEq, Repr

namespace Listing

/-- The longest span of time that can be told, in nanoseconds; it has as many milliseconds as fit a signed word. -/
def longestSpan : Nat :=
  (Text.wordLimit / 2 - 1) * 1000000

/-- A number of seconds in nanoseconds, when that is no longer than the longest span. -/
def span? (seconds : Int) : Option Int :=
  let span := seconds * nanosecondsPerSecond
  if span.natAbs ≤ longestSpan then some span else none

/-- A number of seconds in nanoseconds, up to the longest span. -/
def spanOf (seconds : Nat) : Int :=
  ((Text.signedWord? seconds).bind span?).getD longestSpan

def age (listing : Listing) (now : Instant) : Int :=
  now.since listing.cachedAt

/-- Whether a listing has the given age in seconds, or more. -/
def isStale (listing : Listing) (now : Instant) (lifetime : Nat) : Bool :=
  spanOf lifetime ≤ listing.age now

def toJson (listing : Listing) : Json :=
  .object [("module", .string listing.module), ("cached_at", .string listing.cachedAt.text),
    ("versions", Json.strings (listing.versions.map (·.text)))]

def fieldNames : List String :=
  ["module", "cached_at", "versions"]

def ofJson? (value : Json) : Option Listing := do
  let reading := Json.reading
  let fields ← reading.fields fieldNames value
  return { module := ← reading.required fields "module" reading.text
           cachedAt := ← reading.required fields "cached_at" fun value => do Instant.parse? (← reading.text value)
           versions := ← reading.required fields "versions" (reading.listOf (reading.parsed Version.parse)) }

def read? (text : String) : Option Listing := do
  ofJson? (← Json.readStructure? fieldNames text)

end Listing

structure Cache where
  root : String
  /-- How many seconds a listing stays fresh. -/
  lifetime : Nat
  deriving DecidableEq, Repr

namespace Cache
variable (cache : Cache)

def path (key : ModuleKey) : String :=
  Path.join cache.root (Sha256.hexOf key.text ++ ".json")

/-- A failure that names what was tried, with the failure behind it. -/
def failed {α : Type} (what path reason : String) : Except Error α :=
  throw (.other (what ++ " " ++ path) (some reason))

/-- The listing of a library, whether it is fresh or not. -/
def load (files : Files) (key : ModuleKey) : Except Error (Option Listing) :=
  let path := cache.path key
  if !files.contains path then return none
  else match files.read path with
    | .error failure => failed "Failed to read cache entry" path failure.reason
    | .ok text =>
      match Listing.read? text with
      | some listing => return some listing
      | none => failed "Corrupt cache entry" path "the entry does not have the expected shape"

/-- The listing of a library while it is fresh. -/
def loadFresh (files : Files) (now : Instant) (key : ModuleKey) : Except Error (Option Listing) := do
  return (← cache.load files key).filter fun listing => !listing.isStale now cache.lifetime

/-- Keeps a listing, in place of the one that was there. -/
def store (files : Files) (now : Instant) (key : ModuleKey) (versions : List Version) :
    Except Error (Files × Listing) :=
  match files.makeDirectory cache.root with
  | .error failure => failed "Failed to create cache directory" cache.root failure.reason
  | .ok files =>
    let listing : Listing := ⟨key.text, now, versions⟩
    let path := cache.path key
    match files.write path listing.toJson.pretty with
    | .error failure => failed "Failed to write cache entry" path failure.reason
    | .ok files => return (files, listing)

def clear (files : Files) : Except Error Files :=
  if files.contains cache.root then
    (files.removeDirectory cache.root).mapError fun failure => .other failure.reason none
  else return files

end Cache
end Linkage
