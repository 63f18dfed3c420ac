import FileSeal.Event
import FileSeal.FileSystem
import FileSeal.Key

namespace FileSeal

/-- The outcome of asking a source for its key: the key or a failure, the source as it is
afterwards, and the events on the way. -/
structure Reading (σ : Type) where
  result : Except Fault Key
  next : σ
  events : List Event := []

/-- Anything that a key can be asked of, any number of times. -/
class KeySource (σ : Type) where
  read : FileSystem → σ → Reading σ

/-- What one read of a stream yields: some bytes, with none at all for the end of the stream, or a
failure. -/
inductive Chunk where
  | data (bytes : Bytes)
  | failure (failure : IoFailure)
deriving DecidableEq

/-- Reads a stream to its end, and gives the reads that are left. An interrupted read is tried
again; after any other failure the bytes before it are lost. -/
def readToEnd : List Chunk → Except IoFailure Bytes × List Chunk
  | [] => (.ok [], [])
  | .data [] :: rest => (.ok [], rest)
  | .data bytes :: rest =>
    let (result, left) := readToEnd rest
    ((bytes ++ ·) <$> result, left)
  | .failure failure :: rest =>
    if failure.kind = .interrupted then readToEnd rest else (.error failure, rest)

/-- The sources that need nothing else. -/
inductive BasicSource where
  /-- A key at hand. -/
  | constant (key : Key)
  /-- A file that holds the 32 bytes of the key. -/
  | file (path : String)
  /-- A stream that holds the 32 bytes of the key. -/
  | stream (chunks : List Chunk)
deriving DecidableEq

namespace BasicSource

/-- The failure to read a key file. A missing file is the user's fault. -/
def keyFileFault (path : String) : IoFailure → Fault :=
  .ofIoBlaming .notFound .keyUnavailable s!"failed to read key file {path}"

/-- The failure of what a key file holds to be a key. -/
def invalidKeyFault (path : String) (fault : Fault) : Fault :=
  fault.withContext s!"invalid key file {path}"

/-- The failure to read a stream. -/
def streamFault (failure : IoFailure) : Fault :=
  .ofIo ⟨.internal, some .keyUnavailable, s!"error reading key: {failure.text}"⟩ failure

def readFile (fs : FileSystem) (path : String) : Except Fault Key × List Event :=
  match fs.read path with
  | .error failure => (.error (keyFileFault path failure), [])
  | .ok bytes => ((Key.ofBytes bytes).mapError (invalidKeyFault path), [.keyFileRead path])

/-- Reads a key from all that is left of a stream. -/
def readStream (chunks : List Chunk) : Except Fault Key × List Chunk :=
  match readToEnd chunks with
  | (.error failure, rest) => (.error (streamFault failure), rest)
  | (.ok bytes, rest) => (Key.ofBytes bytes, rest)

def read (fs : FileSystem) : BasicSource → Reading BasicSource
  | constant key => { result := .ok key, next := constant key }
  | file path =>
    let (result, events) := readFile fs path
    { result, next := file path, events }
  | stream chunks =>
    let (result, rest) := readStream chunks
    { result, next := stream rest }

instance : KeySource BasicSource := ⟨read⟩

end BasicSource

/-- A source behind any number of caches. Each cache holds the first key that it is given. -/
inductive Cached (σ : Type) where
  | direct (source : σ)
  | cache (held : Option Key) (inner : Cached σ)
deriving DecidableEq

namespace Cached

/-- A new cache around a source. -/
def around {σ : Type} (source : Cached σ) : Cached σ := cache none source

/-- The source behind the caches. -/
def innermost {σ : Type} : Cached σ → σ
  | direct source => source
  | cache _ inner => inner.innermost

/-- A cache that holds a key answers with it; any other asks the source behind it, and keeps the
key if there is one. -/
def read {σ : Type} [KeySource σ] (fs : FileSystem) : Cached σ → Reading (Cached σ)
  | direct source =>
    let reading := KeySource.read fs source
    { reading with next := direct reading.next }
  | cache (some key) inner => { result := .ok key, next := cache (some key) inner }
  | cache none inner =>
    let reading := read fs inner
    { reading with next := cache reading.result.toOption reading.next }

instance {σ : Type} [KeySource σ] : KeySource (Cached σ) := ⟨read⟩

end Cached

/-- A source together with the number of times that it has been asked. -/
structure Counted (σ : Type) where
  source : σ
  reads : Nat := 0
deriving DecidableEq

instance {σ : Type} [KeySource σ] : KeySource (Counted σ) where
  read fs counted :=
    let reading := KeySource.read fs counted.source
    { reading with next := ⟨reading.next, counted.reads + 1⟩ }

end FileSeal
