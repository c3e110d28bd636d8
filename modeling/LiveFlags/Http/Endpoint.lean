import LiveFlags.Options

/-!
# Addresses of the service

The addresses in the options are those of hosts; requests go to fixed paths below them. Slashes at
the end of an address are dropped before the path is added.
-/

namespace LiveFlags.Options

/-- An address without the slashes at its end. -/
def withoutSlashes (uri : String) : String :=
  String.ofList (uri.toList.reverse.dropWhile (· == '/')).reverse

/-- Where the whole set of flags is fetched. -/
def fetchUrl (o : Options) : String :=
  withoutSlashes o.baseUri ++ "/sdk/evalx/context"

/-- Where the stream of changes is opened. -/
def streamUrl (o : Options) : String :=
  withoutSlashes o.streamUri ++ "/sdk/stream"

end LiveFlags.Options
