namespace ChatLink.Path

def isAbsolute (path : String) : Bool := path.toList.head? == some '/'

def endsOpen (path : String) : Bool := path.toList.getLast? == some '/'

def join (folder name : String) : String :=
  if isAbsolute name then name
  else if folder.isEmpty || endsOpen folder then folder ++ name
  else folder ++ "/" ++ name

def trimSlashes (path : List Char) : List Char := (path.reverse.dropWhile (· == '/')).reverse

/-- What stands before the last name, without its closing slashes unless it has nothing else, and
the last name, which is empty after a slash. -/
def split (path : List Char) : List Char × List Char :=
  let head := (path.reverse.dropWhile (· != '/')).reverse
  let tail := (path.reverse.takeWhile (· != '/')).reverse
  (if (trimSlashes head).isEmpty then head else trimSlashes head, tail)

def parent (path : String) : String := .ofList (split path.toList).1

def names (path : String) : List String :=
  ((path.toList.splitBy fun a b => a != '/' && b != '/').filter (·.head? != some '/')).map .ofList

end ChatLink.Path
