/-!
The tunable operators: which graph operators lower to each, and its templates, the default first.
-/
namespace TuningTasks

inductive OperatorCategory
  | convolution
  | transposedConvolution
  | dense
  | batchMatmul
  | bitserial
deriving DecidableEq, Repr

structure Operator where
  name : String
  graphOps : List String
  category : OperatorCategory
  templates : List String
deriving DecidableEq, Repr

namespace Operator

def all : List Operator :=
  [ ⟨"conv2d_nchw", ["nn.conv2d"], .convolution, ["direct", "winograd", "int8"]⟩,
    ⟨"conv2d_nhwc", ["nn.conv2d"], .convolution, ["direct"]⟩,
    ⟨"depthwise_conv2d_nchw", ["nn.conv2d"], .convolution, ["direct"]⟩,
    ⟨"group_conv2d_nchw", ["nn.conv2d"], .convolution, ["direct"]⟩,
    ⟨"conv2d_transpose_nchw", ["nn.conv2d_transpose"], .transposedConvolution, ["direct"]⟩,
    ⟨"conv3d_ncdhw", ["nn.conv3d"], .convolution, ["direct", "winograd"]⟩,
    ⟨"dense", ["nn.dense"], .dense, ["direct", "pack"]⟩,
    ⟨"batch_matmul", ["nn.batch_matmul"], .batchMatmul, ["direct"]⟩,
    ⟨"bitserial_conv2d_nchw", ["nn.bitserial_conv2d"], .bitserial, ["direct"]⟩,
    ⟨"bitserial_dense", ["nn.bitserial_dense"], .bitserial, ["direct"]⟩ ]

def named? (name : String) : Option Operator := all.find? fun operator => operator.name = name

def loweredFrom (graphOp : String) : List Operator :=
  all.filter fun operator => operator.graphOps.contains graphOp

def defaultTemplate? (name : String) : Option String :=
  (named? name).bind fun operator => operator.templates.head?

end Operator

end TuningTasks
