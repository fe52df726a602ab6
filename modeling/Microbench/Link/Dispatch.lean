import Microbench.Call
import Microbench.Link.Error
import Microbench.Wire.Records

/-!
Calls on the wire: the name of the method, and its arguments one behind the other. A name that is
not known, and arguments that are none for the name, cost the one call they came with. Reading
gives back the call that was written (`Call.decode_args`).
-/

namespace Microbench

open Wire Wire.Codec

/-- Why a forwarded call is dropped. -/
inductive DispatchError where
  | unknown (method : String)
  | forbidden (method : String)
  | badArguments (method : String) (error : WireError)
  deriving DecidableEq, Repr

def DispatchError.message : DispatchError → String
  | unknown method => "Unknown method to forward: " ++ method
  | forbidden method => "Forbidden method to forward: " ++ method
  | badArguments method error =>
    "Bad arguments for forwarded method " ++ method ++ ": " ++ error.message

namespace Call

def startCodec : Codec (Descriptor × Params × UInt32 × IterationKind) :=
  Descriptor.codec.pair <| Params.codec.pair <| u32.pair IterationKind.codec

def endCodec : Codec (Descriptor × Params × UInt32 × IterationKind × Sample) :=
  Descriptor.codec.pair <| Params.codec.pair <| u32.pair <| IterationKind.codec.pair Sample.codec

def benchmarkStartCodec : Codec (Descriptor × Params) := Descriptor.codec.pair Params.codec

def benchmarkEndCodec : Codec (Descriptor × Option Run) := Descriptor.codec.pair (option Run.codec)

def detailedCodec : Codec (Descriptor × UInt32 × Sample) :=
  Descriptor.codec.pair <| u32.pair Sample.codec

def args : Call → ByteArray
  | iterationStart d p i k => startCodec.encode (d, p, i, k)
  | iterationEnd d p i k s => endCodec.encode (d, p, i, k, s)
  | benchmarkStart d p => benchmarkStartCodec.encode (d, p)
  | benchmarkEnd d r => benchmarkEndCodec.encode (d, r)
  | detailedResults d i s => detailedCodec.encode (d, i, s)
  | exception m => Codec.text.encode m
  | println l => Codec.text.encode l
  | verbosePrintln l => Codec.text.encode l
  | writeByte b => u8.encode b
  | writeBytes bs => bytes.encode bs
  | flush => .empty
  | close => .empty

end Call

def Method.reader : Method → Reader Call
  | iterationStart => Call.startCodec.read.map fun (d, p, i, k) => .iterationStart d p i k
  | iterationEnd => Call.endCodec.read.map fun (d, p, i, k, s) => .iterationEnd d p i k s
  | benchmarkStart => Call.benchmarkStartCodec.read.map fun (d, p) => .benchmarkStart d p
  | benchmarkEnd => Call.benchmarkEndCodec.read.map fun (d, r) => .benchmarkEnd d r
  | detailedResults => Call.detailedCodec.read.map fun (d, i, s) => .detailedResults d i s
  | exception => Codec.text.read.map .exception
  | println => Codec.text.read.map .println
  | verbosePrintln => Codec.text.read.map .verbosePrintln
  | writeByte => u8.read.map .writeByte
  | writeBytes => bytes.read.map .writeBytes
  | flush => .pure .flush
  | close => .pure .close

namespace Call

theorem reader_at (c : Call) (h : c.args.size < 1 <<< 64) : c.method.reader.At c c.args := by
  cases c with
  | iterationStart d p i k => exact (startCodec.reads (d, p, i, k) h).map _
  | iterationEnd d p i k s => exact (endCodec.reads (d, p, i, k, s) h).map _
  | benchmarkStart d p => exact (benchmarkStartCodec.reads (d, p) h).map _
  | benchmarkEnd d r => exact (benchmarkEndCodec.reads (d, r) h).map _
  | detailedResults d i s => exact (detailedCodec.reads (d, i, s) h).map _
  | exception m => exact (Codec.text.reads m h).map _
  | println l => exact (Codec.text.reads l h).map _
  | verbosePrintln l => exact (Codec.text.reads l h).map _
  | writeByte b => exact (u8.reads b h).map _
  | writeBytes bs => exact (Codec.bytes.reads bs h).map _
  | flush => exact Reader.At.pure _
  | close => exact Reader.At.pure _

/-- The call that a name and arguments stand for; what stands behind the arguments is ignored. -/
def decode (method : String) (args : ByteArray) : Except DispatchError Call :=
  if Event.parentOnly.contains method then .error (.forbidden method)
  else match Method.ofName? method with
    | none => .error (.unknown method)
    | some m =>
      match m.reader args 0 with
      | .ok (c, _) => .ok c
      | .error e => .error (.badArguments method e)

theorem decode_args (c : Call) (h : c.args.size < 1 <<< 64) :
    decode c.method.name c.args = .ok c := by
  have read := reader_at c h .empty .empty
  simp only [ByteArray.empty_append, ByteArray.append_empty, ByteArray.size_empty] at read
  have shared : c.method.name ∉ Event.parentOnly := by cases c.method <;> decide
  simp [decode, Method.ofName?_name, shared, read]

end Call

end Microbench
