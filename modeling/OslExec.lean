import OslExec.TypeDesc
import OslExec.Symbol
import OslExec.Instance
import OslExec.Binding
import OslExec.Merge
import OslExec.Specialize
import OslExec.Lowering
import OslExec.LoweringShape
import OslExec.LoweringCorrect
import OslExec.LayerCalls
import OslExec.LayerPaths
import OslExec.Arith
import OslExec.ArithCorrect
import OslExec.Bounds
import OslExec.Closure
import OslExec.TextureOptions
import OslExec.Group
import OslExec.Format
import OslExec.PrintFmt
import OslExec.Unsized
import OslExec.Serialize
import OslExec.Stats
import OslExec.Dictionary
import OslExec.DictionaryCorrect
import OslExec.Mangle
import OslExec.Noise
import OslExec.Compare
import OslExec.DerivOps
import OslExec.DualRun
import OslExec.Queries
import OslExec.DualFlow
import OslExec.Indexing
