import Mpeg2TsReader.Basic
import Mpeg2TsReader.Filters
import Mpeg2TsReader.Sections
import Mpeg2TsReader.Context
import Mpeg2TsReader.NewTable
import Mpeg2TsReader.Pat
import Mpeg2TsReader.Pmt
import Mpeg2TsReader.Demultiplex
import Mpeg2TsReader.Batching
import Mpeg2TsReader.Reference
import Mpeg2TsReader.Protocol
