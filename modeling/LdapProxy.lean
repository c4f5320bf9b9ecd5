import LdapProxy.BatchAnswers
import LdapProxy.BerTrees
import LdapProxy.BufferPrinting
import LdapProxy.ClientEvents
import LdapProxy.ClientService
import LdapProxy.ClientTurns
import LdapProxy.CloseOnce
import LdapProxy.ConfigFile
import LdapProxy.Confinement
import LdapProxy.ConnectionsExit
import LdapProxy.ConnectionsInit
import LdapProxy.DataRelease
import LdapProxy.Descriptors
import LdapProxy.DictionaryRuns
import LdapProxy.EncodeBuffer
import LdapProxy.EntryName
import LdapProxy.Incarnations
import LdapProxy.IniDump
import LdapProxy.IniLine
import LdapProxy.IniLoad
import LdapProxy.ListHeap
import LdapProxy.LpConfig
import LdapProxy.NotifyPipe
import LdapProxy.PoolRace
import LdapProxy.PoolRuns
import LdapProxy.PushOutcome
import LdapProxy.QueueFifo
import LdapProxy.QueueWait
import LdapProxy.RegisterTrace
import LdapProxy.ReplyDelivery
import LdapProxy.ReplyOrder
import LdapProxy.SearchAnswer
import LdapProxy.SearchNesting
import LdapProxy.SlotThreads
import LdapProxy.StkThreads
import LdapProxy.StreamFraming
import LdapProxy.TaskConservation
import LdapProxy.TickList
import LdapProxy.TickRuns
import LdapProxy.WorkerIndex
import LdapProxy.WorkerProgress
