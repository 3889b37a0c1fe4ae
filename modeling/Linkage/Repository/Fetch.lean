import Linkage.Repository.Cache
import Linkage.Repository.Metadata

/-! Asking a repository for the versions of a library. Listings that were kept serve while they are fresh, and also
later when the repository does not answer. -/

namespace Linkage

structure Repository where
  baseUrl : String
  cache : Option Cache := none
  deriving DecidableEq, Repr

namespace Repository

/-- A repository at an address; slashes at the end of the address do not count. -/
def ofUrl (url : String) : Repository :=
  { baseUrl := .ofList (url.toList.reverse.dropWhile (· = '/')).reverse }

/-- Where the repository publishes the listing of a library. -/
def metadataUrl (repository : Repository) (key : ModuleKey) : String :=
  repository.baseUrl ++ "/" ++ key.repositoryPath ++ "/maven-metadata.xml"

/-- What is answered to a request. -/
structure Response where
  code : Nat
  /-- The code with its meaning, such as `404 Not Found`. -/
  status : String
  /-- The document, or why it cannot be read. -/
  body : Except String String

namespace Response

def isSuccess (response : Response) : Bool :=
  200 ≤ response.code && response.code < 300

end Response

/-- How requests are answered, or why there is no answer. -/
abbrev Request := String → Except String Response

def unreachable : Request :=
  fun _ => throw "the repository does not answer"

def document (send : Request) (url : String) : Except Error String :=
  match send url with
  | .error reason => throw (.other ("Failed to fetch " ++ url) (some reason))
  | .ok response =>
    if !response.isSuccess then throw (.other ("HTTP " ++ response.status ++ " fetching " ++ url) none)
    else response.body.mapError fun reason => .other ("Failed to read response from " ++ url) (some reason)

/-- The versions of a library as the repository lists them now. -/
def request (repository : Repository) (send : Request) (key : ModuleKey) : Except Error (List Version) := do
  return versionsIn (← document send (repository.metadataUrl key))

/-- The versions of a library, ascending when they come from the repository. -/
def fetch (repository : Repository) (send : Request) (files : Files) (now : Instant) (key : ModuleKey) :
    Files × Except Error (List Version) :=
  match repository.cache with
  | none => (files, repository.request send key)
  | some cache =>
    match cache.loadFresh files now key with
    | .ok (some listing) => (files, .ok listing.versions)
    -- A cache that cannot be read costs a request, and one that cannot be written nothing.
    | _ =>
      match repository.request send key with
      | .ok versions =>
        match cache.store files now key versions with
        | .ok (files, _) => (files, .ok versions)
        | .error _ => (files, .ok versions)
      | .error reason =>
        match cache.load files key with
        | .ok (some listing) => (files, .ok listing.versions)
        | _ => (files, .error reason)

end Repository
end Linkage
