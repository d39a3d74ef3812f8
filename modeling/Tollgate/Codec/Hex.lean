import Tollgate.Text.Quoted

namespace Tollgate.Hex

def encode (bytes : Bytes) : Text := bytes.flatMap fun b => Text.hex 2 b.toNat

end Tollgate.Hex
