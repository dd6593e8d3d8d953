import LogLayout.Config
import LogLayout.Delivery.Builder
import LogLayout.Delivery.Logger
import LogLayout.Delivery.Pipeline
import LogLayout.Delivery.Store
import LogLayout.Delivery.Writer
import LogLayout.Disk.Basic
import LogLayout.Disk.OpenFile
import LogLayout.Entry
import LogLayout.Fault
import LogLayout.FilePath
import LogLayout.Level
import LogLayout.Lookup
import LogLayout.Number.Binary64
import LogLayout.Number.Literal
import LogLayout.Number.Rounding
import LogLayout.Pattern.Compile
import LogLayout.Pattern.Converter
import LogLayout.Pattern.Field
import LogLayout.Pattern.Layout
import LogLayout.Pattern.Modifiers
import LogLayout.Pattern.Reporting
import LogLayout.Pattern.Resolver
import LogLayout.Pattern.Token
import LogLayout.Pattern.Width
import LogLayout.Setting.Conversion
import LogLayout.Setting.Substitution
import LogLayout.Text.Announced
import LogLayout.Text.Blank
import LogLayout.Text.CaseTable
import LogLayout.Text.CharacterSet
import LogLayout.Text.CharacterSet.Big5
import LogLayout.Text.CharacterSet.Gb2312
import LogLayout.Text.CharacterSet.HongKong
import LogLayout.Text.CharacterSet.JisX0208
import LogLayout.Text.CharacterSet.JisX0212
import LogLayout.Text.CharacterSet.JisX0213
import LogLayout.Text.CharacterSet.KsX1001
import LogLayout.Text.CodePage
import LogLayout.Text.CodePageTable
import LogLayout.Text.Digit
import LogLayout.Text.Encoding
import LogLayout.Text.Hangul
import LogLayout.Text.HostName
import LogLayout.Text.LetterCase
import LogLayout.Text.Lines
import LogLayout.Text.Multibyte
import LogLayout.Text.Numeral
import LogLayout.Text.Printable
import LogLayout.Text.Punycode
import LogLayout.Text.Quoted
import LogLayout.Text.Units
import LogLayout.Text.Utf7
import LogLayout.Text.Utf8
import LogLayout.Throwable
import LogLayout.Throwable.Kept
import LogLayout.Throwable.Known
import LogLayout.Throwable.SourcePlace
import LogLayout.Timestamp.Basic
import LogLayout.Timestamp.Calendar
import LogLayout.Timestamp.Iso
import LogLayout.Timestamp.IsoReader
import LogLayout.Timestamp.Template
import LogLayout.Value
import LogLayout.Warned
import LogLayout.Warning
import LogLayout.Proofs.Pattern.ModifierForms
import LogLayout.Proofs.Pattern.Correspondence
import LogLayout.Proofs.Pattern.Seam
import LogLayout.Proofs.Pattern.FirstFailure
import LogLayout.Proofs.Pattern.Stopping
import LogLayout.Proofs.Delivery.Direct
import LogLayout.Proofs.Delivery.Ending
import LogLayout.Proofs.Delivery.Interleaving
import LogLayout.Proofs.Timestamp.IsoText
import LogLayout.Proofs.Entry.Restoring
import LogLayout.Proofs.Setting.References
import LogLayout.Proofs.Setting.Written
import LogLayout.Proofs.Config.Described
import LogLayout.Proofs.Pattern.SideOutput
import LogLayout.Proofs.Disk.Following
import LogLayout.Proofs.Text.PlainEncoding
import LogLayout.Proofs.Delivery.FileLines
import LogLayout.Proofs.Pattern.Fitting
import LogLayout.Proofs.Pattern.RequiredOption
import LogLayout.Proofs.Disk.SameBytes
import LogLayout.Proofs.Delivery.Building
import LogLayout.Proofs.Delivery.Beside
import LogLayout.Proofs.Delivery.LaterCalls
import LogLayout.Proofs.Pattern.CanonicalModifiers
import LogLayout.Proofs.Number.Accuracy
import LogLayout.Proofs.Entry.RelativeTime
import LogLayout.Proofs.Config.AnyOrder
import LogLayout.Proofs.Setting.Braced
import LogLayout.Proofs.Config.Expanding
import LogLayout.Proofs.Setting.Splitting
import LogLayout.Proofs.Pattern.RefusedOptions
import LogLayout.Proofs.Disk.Gaining
import LogLayout.Proofs.Delivery.FailedBuild
import LogLayout.Proofs.Delivery.FailedWorker
import LogLayout.Proofs.Delivery.OtherConfigs
import LogLayout.Proofs.Delivery.StepOrder
import LogLayout.Proofs.Pattern.LoggerName
import LogLayout.Proofs.Throwable.Reads
import LogLayout.Proofs.Text.AsciiCase
import LogLayout.Proofs.Setting.Spelling
import LogLayout.Proofs.Pattern.Refitting
