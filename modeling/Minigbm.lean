import Minigbm.Basic
import Minigbm.Format
import Minigbm.Ledger
import Minigbm.Hbm.MemoryType
import Minigbm.Hbm.Call
import Minigbm.Hbm.Resource
import Minigbm.Hbm.Reimport
import Minigbm.Hbm.Entry
import Minigbm.Hbm.Map
import Minigbm.Hbm.Lifecycle
import Minigbm.Hbm.Contents
import Minigbm.Hbm.Metadata
import Minigbm.Dmabuf.Create
import Minigbm.Dmabuf.Kernel
import Minigbm.Dmabuf.Backend
import Minigbm.Dmabuf.InitRace
import Minigbm.Dmabuf.Sync
import Minigbm.Dri.Import
import Minigbm.Dri.Driver
import Minigbm.Dri.Bo
