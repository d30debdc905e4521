/-!
# Paths

A path is a text whose segments stand between slashes. `Path.normalize` resolves it by its text
alone: empty segments and single dots go, and two dots take the segment before them along. A path
with just two slashes in front leads to the same place as with one, but it keeps both where its
normal form is shown (`Path.shown`). `Path.relativeTo` writes one path as seen from another.
-/
namespace Overdue.Path

/-- The segments of a path; an empty one stands on either side of a slash at an end. -/
def segmentsOf : List Char → List (List Char)
  | [] => [[]]
  | c :: rest =>
    match segmentsOf rest with
    | [] => [[]]
    | s :: more => if c = '/' then [] :: s :: more else (c :: s) :: more

def segments (path : String) : List String :=
  (segmentsOf path.toList).map String.ofList

def isAbsolute (path : String) : Bool := path.startsWith "/"

/-- Takes one segment into the resolved ones, which are kept last first. Above the top of an
absolute path is the top again. -/
def resolve (absolute : Bool) (done : List String) (segment : String) : List String :=
  if segment = "" || segment = "." then done
  else if segment = ".." then
    match done with
    | [] => if absolute then [] else [".."]
    | last :: before => if last = ".." then ".." :: done else before
  else segment :: done

/-- The resolved segments of a path. -/
def resolved (path : String) : List String :=
  ((segments path).foldl (resolve (isAbsolute path)) []).reverse

def ofResolved (absolute : Bool) (parts : List String) : String :=
  let text := "/".intercalate parts
  if absolute then "/" ++ text else if text = "" then "." else text

/-- The path with every segment resolved. -/
def normalize (path : String) : String :=
  ofResolved (isAbsolute path) (resolved path)

/-- Whether a path starts with two slashes and no third one. -/
def isDoubled (path : String) : Bool :=
  match path.toList with
  | '/' :: '/' :: '/' :: _ => false
  | '/' :: '/' :: _ => true
  | _ => false

/-- What a path shows in front of its normal form. -/
def front (path : String) : String := bif isDoubled path then "/" else ""

/-- The path with one slash in front in the place of two. -/
def single (path : String) : String :=
  bif isDoubled path then String.ofList (path.toList.drop 1) else path

/-- The normal form of a path as it is shown. -/
def shown (path : String) : String := front path ++ normalize path

/-- A path as seen from a folder; an absolute one stands for itself. -/
def join (folder path : String) : String :=
  if isAbsolute path || folder = "" then path
  else if folder.endsWith "/" then folder ++ path
  else folder ++ "/" ++ path

/-- Drops the segments that two paths share in front. -/
def dropShared : List String → List String → List String × List String
  | a :: as, b :: bs => if a = b then dropShared as bs else (a :: as, b :: bs)
  | as, bs => (as, bs)

/-- The segments that lead from a folder to a path. -/
def relativeTo (folder path : String) : String :=
  let (up, down) := dropShared (resolved folder) (resolved path)
  ofResolved false (up.map (fun _ => "..") ++ down)

/-- A path and the folders around it, the nearest first. The top of all folders and the folder that
relative paths start from are left out. -/
def ancestorsOf (absolute : Bool) : (parts : List String) → List String
  | [] => []
  | last :: before =>
    ofResolved absolute (last :: before).reverse :: ancestorsOf absolute before

def ancestors (path : String) : List String :=
  ancestorsOf (isAbsolute path) (resolved path).reverse

end Overdue.Path
