/-!
# Names of characters: East Asian

The names of radicals, syllables and letters of East Asian scripts, and the forms for compatibility
(Unicode 14, code points 2E80 to FFFF).
-/

namespace Componentry.Text.CharacterName

def eastAsianNames : String :=
  "@2E80aCJK tm2_ REPEATcCLIFFc?Kth`1c.Rc)MctnGwcKNIFEm5`cDIVINoMhcSEALc!Cm5?vJnFthm2cuAEccnF@ADcSNO
 UTm8c)2m1j9cRAP@2E9Bq;BKEc:0c,9cDEqbwtv1sRcCu]q8ANc:4m;e;FcPAWm2_|J$T>TTRUNKcCOWcDOGcJADEcBOLtkpRCL
 OTHcEYEsRwmKvBAMBOOcSILKcb,VcNETmWsMESHuhUZPcRAMcEWEc&ZcBRUSHm=qMmrFMORTARcGRASSmsATIGmVumIVESc&Fm:
 N,Vq`:|J*Ac*Ac,V^3d.TcFOOTc,VCARTc|JWALKcm16m;4CITYc,VGOLDc$4m?N$4dGATEcMOUNDm4ZRAINc=Jc,VTANNED Lm
 uit79kAFd>XdFLYcEAmafc,VmY6,2c,V<XcBONEcGHOSmN4FISHdBIRDd<8mOkHEATd^9m5_ROGc_TEVENms=_TTOn0mm2_]Xm1
 xTURTLEcb_Tm3B@2F00aKANGXInlc!Jc%2c!Oc.Vc?Kc$Bcna]IDc*UcLEGScEq<itkWR5)McCOVEuYD]nrE$9)MnsJctmNTcWR
 APcSPOONc!Gm6UHItK6yu3G7UREc$Xo0uo<tPRIVmxkAGmv_*Vcm;H:KcSCHOLnMZOdSLOWmw4VENIuM_yGc>YcCHILDcROOFcI
 NCHc!CoB5cCORPs4qPROUTc=3cRImZ]WORKcONESELFmq@BANcDRYc&EoI1)EmPc$4STRIDEc!I[Gs^gOTcBOWoOucBRISn2yST
 EPc)2cHALBERDcDOORoSJqZ>oTqc*1cDIPPERcAXEc$Wc&DoVmSAYoWc>TcLACKc%8oZ7WEAPONcDO&DcCOqe8EcFUo6mANmH0A
 Mc:4o^6CLAWcFnkIc!MXco_BSLnBHFANGoa^PROFnzsocVMELONcTImYgWEETcLnIBUSEcFIELDojYSICKNESSc)ETENTc!UcSK
 INc,YopEEARc!PcSTONosXcTRm_DGoFnCAVmqPANDowPRmRmoxSJARoxRou3FoMHou0!FcPLOWcmD8ow^ovYINISnwPnG7ARnK_
 p08]ActfC_pI:ATmO:PPImiQLOp6[p4pINSECTcBLOODovGnzHp:xcp9J*Ac^3cVALLEYcBEANcPIGcBADm?Z.TcREDcRUNp>ZB
 ODYcp??BITmSsMqk]NGmE`p?qWtne4ISTINGUISHcVILLAGEcpDpcpBgcSLmts&Et[Jr p3FpExWRONGc$6cpEvcbpILcLEEKc.
 9m5>Fc>XcpIJpFKFrF1NTcpGsTALLcHAIRcFIGHTcSACRIFICssemTYCAULDRONpPxpPTcmM?<o0ioSJpQ:cHEMPc^9cu9M2Tc!
 RcEMBROt><0cpVITRIPODcDRUMcRATcNnARpZQpY<]XpW2FLtoSkFF0a,6Du5K[=K!HTtdoyKTO!Vdm338!Fm3tm2OVd(KSURRm
 uidm20,1vHeXf!Hfb$0g!Gf$N!HvE_bAID@3000b:ZuYj^aDITTsu@?EINDUp0eAL o41ARD!9a,6[Lry]]Nb%I$OtOG@tMX3s1
 0,Em4MUm4L!R^Hm2^POSTALsPXGETAat_OC%Ym8fUm8dt[bNsC]t[lhm5`+H)Za%A!Mu9a4u;7iMae$MmD=$6aHANGZHOU<4tov
 9vNjM6LEVELv[xp.8bcv^H@bqVFu9Pu<V%N!ObmEo=C)Za!7KANAsUz!Sdb!A<N.9d!S$0$Tddm3Eb!S$Na%4meM,6|Stqar+F!
 9mS9ujw;a!7n2yu8M7SUabmNT ALTERqbia,6^7=Ub$TFILL:Z@3041a[H!B!CAcAc!CIcIc!CUcUc!CEcEc!COcOu^>ZKIcGIc
 KUcGUcKEcGumZ4GOcSuP7cSIcZIcSUcZUcSEcZunvBZOuP<AujHTmCRTUcTUcDUujMRunH4DOcNAugdcUun3XHAu[1uHIcBuiUF
 HUcBUcPUcHEcBul1BHv3`rMAuhA2UuoVw!Ct<PPm1gUcYmZmYu^FzAufG>UuoQy!CWAcm0aIumikNcVm9gKAdKE@3099a&V]9n:
 i!Scc~Tacm32bm2<b[H[Lbc<Nb*GYORIa]9t8f_;JmwemwtmwtmwtmwtmwtmwtmwtmwtmwtmwtmwtmwtmwtmwtuopJIuomzbt9t
 _]9PRuQL<EDn0Lab;JmxOKOTO@3105aBOPOMOFO!BBcPcMcFcDcTcNcLcGcKcHcJcQcXcZHcCHcSHcRcZcCcScAuR4YHcAIcEIc
 AUcOUcAux>a:Euc2mr3_cUcIUcVcNGcGNcIHcOtQG8NN@3131a<V!BusvZuwk1uswCuwoXuswnuwpIAuu@xuu@xuu@xb=Ob!Bux
 0zut4dusvm~usb?us]vusYtusTWm:0ux<a~McPux9Q~KuwvVuws[uws[usRsuwe?uw7husKbusKbuvYVuv0aIuuoyIuudrE@319
 rUZANNOTpyEtua0ING!Scb*Ycb!Jcb!Iu9mqb&Ucb!8cb(Ncb=Pcb?Kcb;Vcu6?LcbtlRsb:Kcb*UoA6Up0uJIp7NEo40NcOOue
 nwIRcAm1VNNcUm1gMcNGGcAm3RAm3cAMcOMcsa8INNNb!T!Bu^37Hb!BGHcLHcZYm4zGm3cWcKWno@AHaCJK$CTcWGcXGcBXGcS
 WcHZZcHZGcHPcHZWGcSm16HZTm5NPcHPm33m8QZcNcHcScPcSPcDcHZcHm:<cSWZcSTcSGcPDcPZcTNcSZm4yGcHXm=`ZZGcPGc
 Q@31F0pw;KUdv9@]dTOdNUdHAui72Ut@y0OdMUdRAui0iUui3ZOa_1<V=WuzVzuzVM>o`vo`N=WAcb=6cb>Scb>Icb=2cb>Fcb>
 Ocb<Ycb<Qcb=Lcb=Vcb>Qcb>Ecb=Sc<QUbKOREAN=KOJEONdO HU@3220b_Ss7iu;7v,9c;Fc:4uga@cMETALc:Kt9[_TOCKcHA
 VqOkCIETYcNAMt95JCIALcFINANm2=tPX@ATtw_?LABORcREPRESENTcCAtwzoUDYctUGgVISEsLBPRm2LREu;w1cALLIANCEcF
 ESTIVALm5oTt945REACHa%4_S)JcKINDERGARTENt:eqOLcqAVtv`wti9xcd&Qcd*Dcd+Ocd(Jcd+6cd+5cd,Zatk^]!Ea%4%I&
 Qt;litumG*Ddm6_bnK_nKnnKnnKnnKnnKnnJnCHAMKOdJUEUIb<V<YUam5qt84?%4nOjnOvnOvnOvnOvnOvnOvSECRETcMALEc[
 CcSUIt<@AEXCELLnTuu0sTctdnBm<9ITEMnLgCOPYcu8<aCTc$7c%3c$Mcts5VcMEDICINn[_LIGm<8ndQnd^nd^NIGHTb%I*Dn
 IJ+OnIGnOv(Jt864!9(EJANUARYeFEBRm1xuZFeeAPRILeMAYeJUNEeJULYeAUGUSTeSEPTtOe<eOCTOm1gNOVm3eDECm1xa$WH
 GbERGbEVatY2zD LIABILITYnsj;JAs25r]TKAup[oUuubPSAuo6eUuvzLTAuq2TUuq5Vt72_urnssyYHsw8ruUUssssrga$WER
 A nVq REIWAbAPAATObARUHUAbANPEAbAARUbININGm1VTIbUONbESUKUUDObEEKAAbONSUbOOMUbKAIRIbKARATTOm1gORIIbG
 AuPb>ANMAbGIGm16NIIbKYUm6UIRUDAAbKIROm17GURAMUm2MMEETORm2_WmB=m6Fm1YTONbKUuBK4m2<OONEbKEESpr;UNAbKO
 OPObSAIm8abSANTIIMUbSIRm^`pXuIm1GObDAASUbDESIbDmIFmDHNANObNOmJLHAITUbPAAm9ymqqUbBAARERUbPIASUmTzPmF
 um1WObBIRUbHUARADDObHUIITObBUSSYEm5ORANbHEKUTn3NuB]XbPENIHIbHERUmGkEn12PEEZIbBEETAbPOImKBBORUmP0ONb
 PONmD8OmK2HOONbMmdCOm1gRUbMAHHAbMARUKm2mNSYm7Zm7Jm1hRIm17BmL9MEGAm17mgDn8@YAADOm1Fm2]UANbRITm5ORIRA
 bRUPIIbRUUBmf>REMm16NTOGENbnCpoZYHOUR$OftjSOtjS^f$Xf:Lf:Bf>Rf=Qf<Uf<Hf>Lf<Sf=7f&QfvBroY-ONEf~2m36tB
 ^wm2qs`Ro_mPAbDAbAUb$YbOVbPCbDMc(3cCUBEDbIUboA3HEISEIdSYOUWAdTAIm2<dMEIZIbCORPORpjKbPA AMPSbNAbMU m
 z6bKAbKBbMBbGBbCALbKm16PFbNFm7ZFcGbMGbKGbHZbKHZbMHZbGHZbTm2]U LbMLbDLbKLbFMbNMm4HMbMMbCMbKm1w(3bm2]
 bMbm3T mXrm4Q$ASe(3bPAbKPAbMPAbGPAbRADcm5bmVDSmCRSbMSbPVbNVm32VbMVbKm1F nR9PWbNWm5NWbMWbKm1Fm5PK OH
 mH1AMbBQbCCbCDbC$AKGbCObDBbGYbHAbHPbINbKKbKM!DbKTbLMbLNbLOGbLXbMB!CbMILbMOLbPHbPMbPm0qRbSRbSVbWBbV$
 AMbcAn_UDAYn^Zn^in^jn^jn^jn^jm2bIVm5CSIXm2PuBNDm2qEqlsm2qNINEf*DfTHIRmFFa$WGAL@4DC0aHEXAtrxh&8CREv9
 h6 t8YWdRECEPm3c:KcDIFFICULTY AT&8BEGINq3RcYOUTHFUL FOLLYcWAITt?jKNFLICTc&8ARMYcHOLDING|Tc!CTAMm7ZT
 Ru473cPEACt@DkSTILLcFELLOWsjoc[EPOSSEu4;;MODESTYrX]HUSIASMcmIVu4a8tAZ8 OvMIRCAYEDcu>CEmNDTEMPs7UBmR
 n;WcGRmIhPLITm3s APARTcu4>_INNOCErjs[EmV7*V?0mO:REpZ@ERrqLma@BYSMAL:4dtQ[NmCsFcINFLUm=`DUoc6mCBn28m
 >DtBZuPROGRESScDARKEmxk OF&8$Sc&8FAMILYctw3pcOBvSAkm2]v?W>VmKfDEt]F5cINm1zuIBPuVvbCOmXP TO po8cGt@F
 un:kPUSHm64uF:nmGJRn3b&8WELLcREVOLUTm3ut@?^dAROUSm<8try>dKEEPm3RnEl=3cDEVELOPMENnT4MARRYm6eMAIDENcA
 BUNDmtvWAm>4ERdGENTLE>XdJOYOUS LAKtA2iPERmOKsPjmwTn>AER TRUTHc!Cn;iAFTER t^H=m9hbBu@Pi@A000aYI,QITc
 IXcIcIPcIETcIEXcIEcIEPcATcAXcAcAPcUOXcUOcUOPcOTcOXcOcOPcEXcEcWUncHcBIXv2<qIPcBm?ZBm?kBIEm0qPcBATcBA
 Xu^@TAPcBmAFBUOm0qPcBOTc)Mv2GBm32m<8EcBm;cUTcBUm96cBUm3BRm2]RcBYTcBYXcBYcBYPcBYm5>YRcPITcPIXuxQ3v9A
 Bm2]Em0qPcPATcPAXcPAc,McPmL8PUOm0qPcPOTcPm3cOcPm3BUnW6m6ucPUm3BRm2]RcPYTcPYXcPYcPYPcPmIwPYRcBmh[mhl
 mi0miAmiRmicmirmj8mjGmjWmjgmjxmk>mkMmk_mkmBBm4XmlRmldmltmm8mmImmYmmjmmymn?mnPmn`mnpmo5moDmoTNmR]NmR
 ]NBIm0qm49Em3CEm17m3cAm7kAm4XAm0qm48Om48Om48Om0qm48Um48Um48Um0qm49Rm3CRcNmJ]NmJ]NBYcNmJ^n?Fm1GcHMIT
 m16Xm16m0qPm16Em3CEm17m3cAm7kAm4XAm0qm48moDm1Fm17m3cOm7km4Ym4Hm49Um48Um8bm0qm49Rm3CmJ<Ym2<Ym0qm5NmO
 Zm1FcmOJmO:MIcmNemNUmNDmN5mMomM_MAcmM>MUOTcmN5mMomM`mMNmM>MOcmLiMm=NEcmN4mMoMUcmMNmM?mLyMYTcmM_MYcm
 M>FITcFIXuvqfPcFATcFAXuvqvPcFOXuvunPcFUTcFUXv2:eUm3BRm2]RcFYTcFYXcFYcFYPcVITcVIXt?quIm3BEm3REm3cEm0
 qPcVATcVAXt?yuAPcVOTcVOXv4n>OPcVm9Fm8@UTcVUXv4voUm3BRm2]RcVYTcVYXcVYcVmH0mwDVYRcDITcDIXv3^sIPcDmHqD
 IpTLEPcDATcDAXv3fRAPcDmuyDUOc!OcDm2Lm1VPcDm;2qDHm7JTcDUm80cDUm3BRm2]RcTvYcXXcTIc:2cTmEoTIEm0qPcTue5
 FXuzz[PcTnAsTmFuTUOm0qPcTm3sm3cOc&UcTm=>EcTm<iUm9Fm96cTUm3BRm2]RcDm_Em_Um_em_vm`<m`Km`]m`lma0%0cDma
 AmaPm1Gm17m3cOm7Zm4Xmcmmd3mdCmdRmddmdtme9meHmeYmekmeyNmLyNmLyNDIm0qPm16oj_mLyNmKcNmKcNDAm0qm6ToiHmH
 @NDOm0qm48m:Mm:<otZmH@NmH@NDUm0qm48olKmH@HNoeqNoeqNIm0qPm16Em4IEm4YEm17m4yog<Nog<v2hSm48og=Nog<Noeq
 Nm3Coe0Nm=?m<ym<jmLHm_um_eIcmF4mDYmDHmD9mBmNAcmBLmB=mAwNmyP&DcmBLNOcmBmmB]NEcmB<mAxm_4UcNm^_m^Om^>L
 m^>Lm^>LIm0qPm16Em3CEm17m3cm[sLm[sLAm0qm48mIgm1Fm17m3cm3Sm3Bm33m>Em>4m=ppJ0LUm:^m0qm48pJ1LmL9Ym6TpK
 6LYm0qm6ToNmm1FcmRLmR<LIcmQgLn4emR^mRLmR=mQwmQgLAcmQFLo:DmR=mQwmQhLm3sm3cOcmQwmQgLEcmQFmQ6mPqLUcmPP
 mPAmP0mOkmOZLYcmO:mNvmNeGITcGIXv4EoIPcGmNeGmNeGIEm0qPspRcGAXud=kAPcGmNeGmNeGUOm0qPcGm3sm3cOcGm3Bm>T
 m>DEcGm=oUm:Lm:<cGUm3BRm2]RcKITcKIXv2WCPcKmIFKIEm0qPcKur>HXv2Y`PcKmH@KUOm0qPcKOTcKm3cOcKm3BETcKm=>E
 cKm<iUTcKUm:<cKUm3BRXc+2cGmc^mcnmd2mbHmbWmbimbxmc=mcLmc^mcomd4mdCmdTmddmdtme8meImeYmejmeymf?mfOmf`m
 fomg5mgFmgTMmKRm1GcMmJ<MmJ<MGAm0qPcMmHqm1Gm17m3cqnNGm4Ym4Hm49m>5m=oEm:nm7:Um;dm0qm48qqbmGkHXoEwXoEw
 XIm0qPm16Em4IEm4YEm17m4yoGBXoGBXAm0qm48miam1FXm1Gm17m4ym4jm4Ym4Hm49m@bm@PoePmb6m1Gm16m3dpWomcLulf:o
 uPn2Hm1Gm8qow<Gm3Sm3Cm33m7km?;m>umR]m[RmVvmVemU>mTyAcHmTXmTImT9mSsmSdm3sm3cOcHm3Bm<HEcHEPcWATcWAXtD
 NEPcWm;sWUOm0qPcWm2mOcWm2LEXt>Y_EPcZITcZIXv95ZIm3BEm2]Em0qPcZATcZAXv9=:APcZmAFZUOm0qPcZOTcZm3cOcZm3
 Bm<HEcZm;sUTcZUm9FcZUm3BRm2]RcZYTcZYXcZYcZYPcZohcZYRcCITcCIXv4XQPcCnGwCmM_CIEm0qPcCATcCAXv4[tPcCmM_
 CUOm0qPcCOTcCm3cOcCm3Bm<HEcCm;sUTcCUm9FcCUm3BRm2]RcCYTcCYXcCYcCYPcCmM_CYRcZmkMmk^mkmml3ZmNeZmmZmmjm
 n0mn?mnOmn_mnpmk=mkLmk^mknml2mlCmk^mkmml3mlDmlSmldmltmm8mmImmZmmiNmO:NmO:NZIm0qPm16Em3CEm17m3cnq]mM
 oNZAm0qm48npWnB8NZm2=nnZZm<9m;sUm6Em0qm9WRm3CmGkYm@0Ym3BYm0qm6TmNDm1FcSITc!Yv4]zPcSmLySIEm0qPcSvLya
 Xv4`KPcSmKRSUOm0qPcSOTcSm3cOcSm3Bm<HEcSm;sUTcSUm9FcSUm3BRm2]RcSYTcSYXcSYcSYPcSmLXSmLHmLXSSIXtSgjmMO
 mMamMpmN6mNEmNT&m1gmNemKtmL9mLHmLYmLjmLymM?mMOmM`mMomN5mLImLYmLimLzmM@mMNZofVZofgv;NinSoof6m1Gm17m3
 coHXofwv;Q;m49neTohc:Dm1gm;dm3sUm<Ym0qm49Rm3CmF4nZXHnZXHYm0qm6TnZYHoMFmLXCmLXv:zooF]p8em1GXm1Gm17m4
 ym4jm4Ym4Hm49oW2mMo+Mm1gm<zm;Sm0qm33Rm3CmFDoKJmLiCHYm0qm6ToLAmLiRRmi@0cRRmIFm1FcRROTm16m3Bm33PcRREm
 48Em48Em0qm48Um48Um;Sm0qm49Rm3CmBmYm6TYm3BYm0qm6TYm6UoF]Ro>mmJLNRAm0qPcNmH@NROm0qm32Em7:o>LREm0qm48
 syymH@NRUm0qm49Rm3CmAgo@XmH@NRYm0qm6To@YmH@Sn4DSn4Dv6FmngPn2ym1Gm17m3cnk8n2yv6PIm49tNK;Xv6W3Em;dm3s
 UXv>sEUm3tRm?[mEonn:n3oSHYm0qm6Tnn;n3omeHme8RAcmdcn5;n4vmK2n5kn5[Ocmgun3pEcmf>meyn2zUcmeHme9mdsmdcn
 1dYcmd2mcnmc]JITcJIXv=<DIPcJpfRJoVmJIEm0qPcJnk8JmKRJUOm0qPcJm3sm3cOcJm3BUm7:m6ucJUm3BRm2]RcJYTcJYXc
 JYcJYPcJmI6JYRcQITcQIXv5yMPcQmI6QmI6QIEm0qPcQmI6QmI6v;HemI6Qm3sOXv68Im7Jm7:m6ucQUm3BRm2]RcQYTcQYXcQ
 YcQYPcQmI6Qmc<mcMmc^mcmmd3mdDmdTmddmdumd4mdCmdTmddmdtme8meImeYmejmeymf?mfPmf`mfpmg5mgDmgTNmKRNmKRNJ
 Im0qm49o1_mKRm1Gm17m4yqHAmKRNmJ<NJm3Cm33m6Um6Em0qm32o7dmI6NmI6NmI6NJYcNmI8o7dn60NYmKRYIXv?gImKBYmKB
 m1FXm1Gm17m4ymKBm1Fm17m3cmLXYm4Ym4Hm49oUFYUm8bm0qPcXITcXIXv@CRIm3BEm3REm3cEm0qPcXmC2XUOcXOTcXm2]m2L
 PcXYTcXYXcXYcXYm3BRm2]RcmVDmV4YIcmUomU`mUOmU>mTzYn]TmUpmU_mUOmU>mTyYOcmTXmTHmT8tLD8m3BRm2]RcYYTcYYX
 cYYcYYPcYmI6YYR@A490btTu;nmuLIcKmtes9NqoUt8IGt7yDIt7sQLYRt>5xMmL9cPUTt7i5Tt9F@sjNsIot;D]t>wmGGUmxMT
 UcnfMsz`PYt=WgmgUVp6ZcVq`JAoXyrjsngAGnt`ItLjVDUp?qLsroYsmCIPt84XpZBrt>pQ[+Ms^it>KKKE@A4D0aLISU!BBuw
 [UDAumv8Guz@7JAun1].0umraMAcNuzMdvO1n$5cHAcXvC0fFuwghYAc&BtLNDuoweuzaEvaOkHcOEc&PMYA TIdNA POdm2mCY
 AeBOeNAeJEUb(Qv07LaVAI,QEEcEENvCNyWm0sNv?hNBm3sBEEcMm16Km48MGm2Lm17FvBMgEvBI`m96Dm18m1FLEps0EcDEt<B
 LsQ_EqDXEvAJYm1wCEEcJm6em16YmDim2mv@hlmFem32m0qm5oIcINtGB@INtG84INcPIcBtNGCMBIcKPImQVIcm0qFIcVv=UKH
 IcDm0rHInnJRIct<p:v;d7HIt8eyHv<sLp<>oFLKImLyIcGIns8NIoqiAcvPejNt9=lNt92INnLT&IcBuonOKPm0rNmM_viFiVn
 R]%5mM>nM;Ruq:UDuoD;ZnP]uqAqNJAcYn[pKmHrt;QknYv%FtL>TONcHOOcWm0sNv>TPBm3sBOOcMm16Km48MGm2Lm16v;1ZVO
 v>Dav:qzDm18m1FLOv;E3DOOcNm16SOv<0sZm0qm1wCOqs]pp?oyyv>:4mQVmDXmFem32Oo]1nrdNtHScUNv?hNUNcPUcBtOWOM
 BUcKPUmQVUcm0qFUcVUohBTHUcDm0rHUcLrVPo^gNo_]Urs8ZUcZsxRUcq?]pIZKUmLiUcGUv@WZpr;cOcOmtBmp;cHONongWmp
 Jmp;cBmoemoTmoFcm0tNcFmoev4=0DHmn`mnNs0HDmmimmXsMhZmlsmlccqaRpPDKmk_cGmk<cNmjhod:mMooU7cHENt:ZToUFo
 U7cBoTaoTPm0rna=Ecm0tNcFoUgcTvBuaDHoTboTPsLqDoSkoSZsiXZvCgXCoR4oQocYoQNmNTm18Nt<zgmDHoRevDabGcLENGT
 HENERtSRCvBOd,QNDOLE Fv2MgSOOb!9FEuzgXm1GTINGv>]autuTFAo:4o6]NGnc8m8PUm8@Om3S-moTNvSPmtK[5mIKMAdDO@
 A640w0H:ZEMLYtaq5td1km37%vyV](Tm5St]B<m37t]Czm:1BROADw0wc*WYERm33vyFH;0bfw1VLYATvxqkYUm2r<AAmLNYt]V
 4taEdupj4mC8<Am7kmC7YNm]Ow05M;SDm2uELm2uMbdm`QuBc=OmEeBIm4Zm]p!Mm9;mQzBts7Bm4:t^LDVZMETc$X_X!Ecc%7c
 c(6aSLAVONIC*Mt^T6w2XHw2VuUw2f7(Gc[OcPAYEROKa.L[Obm2pn>cWEnIjm2tZHm2tCCHm8XZm2sTw1@pTm;zTSm2vSm2tmA
 _mG2Sm2u!Mmw[;2m2]unW@mb7b;SmidEFd<AEaBAMUM!BqAGpMCr>3TAEcOq_uIqO:PAv?FzIrELr8Nm8AqStqPAEMcMcSUpYkq
 tsqvbEUXcSm16KrG7sBTUAEpavJm1wYOQplgYUQq_4NSHAcKm:<Pm16rS?Nrc8PUEcWUEcPrhIRq0qr8`Rm9FRAmDHpSgKWAEqm
 [$5pc1PmFeFUcFOMcWsOuIr[>LOQpdgMpSgRpCGNqwuTrNAMm5Np52ETrE;$XcNTUUcSAMrE;AMmHaOVUUcKOGHOMb&V!SKOp0e
 NdTUKWuNKBbmmzLIpQ^NvEvlpSW@A700n?GCHuxxw&PYIN PINGeb:7em2mSHAm39QUm2QRm2Mc_J)Ew9lwd$7cdMIDvjM:d_Kc
 m5ptz:ITEMce$7cem6ue$Mce_Kcd_Jm;ab!O!7d.Vd$3$Ycu9A[(Dc)5UP!Pdb!5d)0!Sdc%Tm;3vi;TF$7&Peb$MtfHNEGYPTt
 cgO$p0Fm5K(p2gHwBMvTZm2QmDHILpq[CUATRm3sm46!A&Np4LtfkJFeSm6vAq6kAm;iAUm2RVm2StjxxoczAYp_`CumJ]Kw2<L
 m3F(Am6Ecm6Y!Fui12]KmdBw>2A7$Cuj3o4$C<FuiYv,8w5C[OwASoC;W.Nm9KPuNp:URISHum7ISQUIRRELw5;]Qm=;QmVumMd
 uoigp=HRUq@wVm:GVmneVISIGOTHIC Zm:Q[7mowm3GmL5VENDm>jEr@BISnMaOqi@pYLUSu^ETDUMdLUMdMUMdNUMdmSsw=_OT
 UMdUMph08DqnT8Fm2dGdc$VmRA$Vqw;8Rm2dSm2dTpxd$M%W(Xc)Nc&E(SwFY:SALTnx?$VHmOluqtm!F<tUrcINoCN!Ounax.N
 wF2d$Ym32fur]^HrE]nP[Fn37VOLAPUK AoZum4BOm4FUm4>G!A[WnLxdo4Qm2RNm2RRm2RSup2?$BurenurcaL!A<Odn;oIn=^
 QmjjKeTureN)Wd+KmpJw81IUm^7*IsOX*IIm2dsWH&ZPOLISH Om;xANGLICANA Wm8UCurp@bS!AdbZm32w@@HEo]Uem_Um2L@
 A7D0sil;8Gbem4:3d!M[7m2<5eWYNNrYT8SCOTS sq`SIGMOInoam;sF2tj;PCdFdQn^M%A$TnGyEPItc5huuD@Im9YmzVCc!C)
 FOniLtjMMMm:E%AFePd%TMdIv?WNAd+UMaSYLOTI NAGRI!BAdIc!EDVIvcAoc!Bv5Jic!Ev<4XTm3sKOdKHOvC>yHm5_%9co]0
 vB0HJOdJHOvCNZHOdDDm0qm3sOd.Edm32HOdNOvCPuHOdBOdBHOdMOdROdLOdRROdSOdHOv4jHIeUeEeOOcPOETRY^K/3c!E*5m
 Nh@A830a&CINDICvcz?e$Td!L:Vd!J[4e*9d!L|Kc(5!Scb~Ncb?JcbQUANTITY@A840aPHAGS-PAv9>ds0JuzQjv9<[v[WUv[V
 M!Cv[Vav9?HtSA`Qt<ZmFvmoEEEuzSFWAdYAuz3]c&Gc*5YAw?N0ELESS$8c<Nm?Zw?OY FAm<jRAbtT<9vZhRb!B(Rb%N,2!pk
 PMb!Sv^N1!M@A880aSAURASHTRAviTkvg@uvXstvf;1vf:Gmokvf:GvYrbv:5vvf6n)Bb)8nmDARUv]HJv]HOAIvf36c(R@A8CE
 vo;Yv0;AA8tgL0vpMVv09av09fAdUdKv:J7RAdVoL@,Cam>kvhEK&Ycc!Mc(RmAy,CtNsTPIKAbGAP=Ob<PuE8Tu2BMvhcQJAI
 N OMbs@9mibavYR9LmRvmS1v]aW$5dSAd$8vYX_TAdHTmX0v:VADAdBmZ^Yv]TyWvY^LdVvYeTAdOv=looa8v:W2v7gIc&PPLOP
 HUdCALYAem2oc!ECWIdSHYAaREJANGv8i2v@hzv8fDSnVRnXMWnU;MBAt8_utJh3YJAcv8i5nQSv;[GUdEv2SoNdRdHb&Y@A95F
 b*2!SvXUu vT0rvR`4m2ovXG2tZX8m2`tZe2|BvSrQt[07Sm4am:Nt[vdm5At[0[9c|Em50mAyvT2EvSySmAXm2pvXJ6vXClm?=
 vSmfvT6HvWOVmIWm2_m8imOlm3kmDkvVpVm5qvSV:t[S[t[yZ@A980aJAVv5>FAnDvCECAKcv5>rWIGm4ypESI KAWIpFLPA CE
 REKc$5LELETeRASWADIcpGrKAdv6Wcd;McGAm1FpGom1wnb4m1h=1pILdm1w0m1FNA;McTm8QDAm3ecPm3CBm1FpIpdAGUNGv5O
 k;Mm9Vv7=fmYx TELv^@ORvcsev5GxWULUeMELIKv7A;MENDUTv7<_dDIRGA MUREv7;xnxhKvObkPEv5cXv1lObPnhgONb!HRE
 REmtcNuj^2PADA AtLx:MADYAcLUHUmx:NDmsmm>TTcmG:Sm5onQccADEGdm16cPISELEHbc$V@A9CFmF5Rm;REPpjUpjY9DEmK
 TTIRTA TUMETEScISEN-m16v_NQ;Q&Bd%Ed&6d&Gd&Iv]b6SAWbsM6;QREDUukohnSov=]uAING%FeFAeGAe&BeJAe&6v@KsRe&
 Gbm7pv:>2uEy3mA>)BeDAe%5eBAe&I@AA00aCHAMv70wnexr1[NGUEneetG9:HAr31NHUEcrV@NHJAr2Bm5NAr8<PAcPr4^UEnf
 ZBBr6Ir5`r2rpX5OvfK`pXDUEnYtva[wWA@AA40b!B!TKdGdNGbcm7:m3dCHdTv5QcYdrc8SSm<z!TMeH@AAv8hVnLSA5Cb(Qs;
 [Lc,Xs24cb&0nJN^CGAvbCRnK_vbCGvb@^vb4VHHAdFAnOx^CnP8^CXAvB4bb_W^COAYdQNdHMb!9v^q<)0r2kp36m3R RoZDPA
 O<Z&PcnLI[9ev_=8t=xGv_Ar%Ee$8am8PVIET!B$MKOv<mH$MKHm2Bm2QGm20Nm2ACm21m8ESm8EYm2@Dm20Tm20.Em84m3wBm2
 0Pm21mB1Fm20Mm20mChRm20Lm20Vm20m=cm;Tcv=<F$Dne5Ur^;dOm4yHITc$DIAdUEAdUAv@?[YdANdAMcvff;eNUENGe.EeSO
 NG@AADBc!9KONdm5OdSAMdHO HOIdKOI KOIaMEETEI MAYEK!Bo0H%EvckBvgMhrb3IeUUeAAIeAm1VUcCHEIvEMJAve;RKHUD
 vzv:JIc,QRpk@ItoaYcc.Gm>U(Ccrj2B01tob_TTHUvMy0AAm1FEEvN2iOm8q9cDtBnVtD6eDm80DtDYGDHm16m8111cDZUcDZI
 cDZm7JZm7:Zm0qm6e20cCoyym1GUm1GIm3um49toKLHm1Hm:^8tTIyUtTTkAm2mEEtTCum7Z30t<Dk=G(IdA tm8TSCHWAduHJD
 LETTER Ev4@PEt;c5tr=[ Fd*1Gv2q[ug0tfv1btf!8$2dMm6TwKaLnGVmBDOv34=d$9d%TOEv4y0!uxr33eO uHS;gm7lSTIRR
 UP RwJ][!AwLJHR^8uMJrd!MRdRmH1d!Md*1RmDy2dw0H;,FdU!A&Em<Xee$YdUwK[?Uv3Gpd)We!A$M!G$2g!Hu6fNdXm3wf$4
 !H,Li!Fm3Ti!Am7LYmB0a(1&9wM0fmStHmdsmm@mlcmG_n7YSAKHA YATd<AEd$9OEdUOd%T(Iv5P@(Gm9VwJYiv4AITStulSmA
 wv4=RWc!HwIpoG@AB7vUE`m=>AvF7gVdGvEz3vNOtOvNT0VpoyvO09UdHVqN4LvMztOvN40VdMAdMvNH9OdMUq1FHNAdNAHvOBV
 UdNVdQUAdQUtxkqdQUOvH^qVq;RSdSvMgbOvMkiVdDvFREEdTEdDIdTIt;XTUdDVvNDqTm0rvN6pOvN<BVd(WvMnLIdTSOvMreV
 dWvOdMUdWVdYAp7YKOKp?OLAIdMITdPmZ<dCHILdTILdKHOUdNGOUdTm2<WAId:7dHUKdUNdIdPHAMdATIYAdGOKdJm3BRAIdBA
 tspsDILdGm<8Dm16Bm6TKOK LONSUMdbmI6bmIFbPAdbNAdbmHqbmH1bIpChONAPeIm16Am16YEm1FSOUm1Vm17pUcm1gNUNGpX
 WEIcLUM IYEKcbAPUN@ABF0ct:5_vm`Y7B0a<Vv`3: v_^hO-td_yO-Am16tdcQEOcUm6EU-Im6DUm5?U-OcEU-Am16Em2MEm16
 Ov_Wcm1YEm1FEm2^m2LmCcI-Ym3SUcItdrn-v_]4@D7CBv_Q3 teMNt92Zm2^v]CV|Pt8rht9mLm2tt9pEtelzt9tFm2pmD<m3E
 t9X`t9z?m3vv]]vv^t=v^_VtfSwmEqm4;v^adm8TteuKtfXzm@svceJmFVmp[v_79vcq_m4jm66mHRtfgVmjI~Mv_7Iv_66m=q|
 Nc~LvcemvcSwmR0m8@nB[n8tm3imj9m;Svbp[IvcVKvcSXmjYm<8v_RLmLWmyTmSem3Gm>GmG[m=qm2_t;F`|Lt:jRv_PpmMs@F
 B0rRJ)FFFdFIdFLdFm1VFLd$4S TdST@FB13a_Dm80MEN NOWeECHeINIdVEWm3Rdm5>XEmAF1DwC30!BYOD!AwB@@b:TJUDEO-
 SPAtrRYARIKAwASK YODm0rPATvBLP|X:9cWIDE$Eduqg<qNu(UdwAo8d!T+Cd.7dTAVc|XwNUo(V!A(V!OebSINeb]S!F(Vgm2
 mw@fVmC3ewB?[ewBSCBET!A]Scc,IcwB>y!Am6FVAVm6F.Y@FB38ctEBywBB<wBBMcm0qmNfm6uEcc+C@FB40cc&Hcc,Om2m3cw
 BD9cPEm3B6cwBCuwBD8c.7cc(VccmZ]mH1wC0<mPcRAFEmEPPEb)F$EmFvw6sLw@E8$H&Web!TcbBEEH$Hdb!Tu1R@b%KcbPm4F
 BEHm4gTTm4xbm4Xm9Um4VVmJ[m==bDYm4VNm4WTCm=>m4hm5=w@Wtm4kcbm2wUm2RDm54Jm>ycbRRm2c[PmCoGAFm4EUmZ;GOm4
 gw539$Hn?Xw@6]m89w@12!K$Hgm5?GOALm:_eb$Peb%Kdbw@>Bm5yw<?Em5Dw?sj$Hhb!Tb!9tv<6cw=?am2<Lm2?e)S$JwAv3!
 Nm6Xu:[Dm:M?Tw<xS$2c!C)Lm7<nn;!K@FBD3b!BNGnpgm^XUmyDOEm2@Ym4MUmRqccVEm4:^DOmYIdm8qmr9EmqLUIGHUR KAZ
 AKH^D$E%J$Phb%KboFmGmC4!A$E$Hib!ThbAm2A&5m2@Um20Om6IYm4Mm4;ib$PmH4^DmCXmHbHlb!Tlb$Pbb!B[A$Gn<lmNRU$
 Hhc$Lhc!4hcm=ohc$Gcc*Nm64ec$Lec%Vec!4em6Uem6V4m6Ym6d:1m6Tm4u$U!Am:L!4cc$Lm7Ncc%Vm2_m68)DmD0m4K6m=4*
 8m79Lm6zeZAHcc(mE5+Zm2c)1m=CmX?)Im?Jm4twBe9Eecm<@&7m8L&7mCWmCb!ms5m=;3m6Ym6do^Vmy`Gm;Fm;QwECF!AwDMw
 f)Tcfm5_cc[1!A]Uec]8ec;Eec;4ec;Iecm8bbnYH)T!Thc.InYD&3nZD)Tec.ImI8&3nZBm6anZBm6Wm6dn?8n;in:4n7Gn7Un
 4tEnQD&3mHemHpm2=mp]myam99m9EeboKpPoKm%VmnP(nu4oKXm5@nRG(4mic!4oEpoEvoE1oE5%VoEpoEvccZAHmGZoEioEvoE
 voCcn7Xo@gn77m`zo=Bn:=m9fo9in:=m9En8q!4%Kn6Fn3gn18m2c)Dm2c+Gm2`m^QmZpe&7ce&3m5@$m7poJwoIDcb)Lq0entb
 Lnwi+Zo2nDm6=Gm38nOHpkim3:%Vm?C6m3:*8mBEmpj)Tce)Dw<Tqe*8mVZ!TmVamVdmVdmVdmVdmVdmVdmVdmVdm7m$Pm8DoBJ
 (4ce+mE>Lo6nboF_%Km9:mDum98qVhwBh;[B!Tfb$HaORNATEv2L3a,B)FRAHIMAHUwIaTAHwId;m4INHeANHAAm1FUMm1Hm35N
 NwIxCm=qAYHI WA-AALIHcm3Uw<ePLAAMcbm3um22AAm8<TU Wm:cQUDDISA SIRRAHmG_mGSmG;EEmIVm6fMmAiAAmJ3TABAwI
 DLm8@Tm;2AAcmfRMmd5pUU!AwFyrebpOPsHH$PgnD4en=Zosggc$Lgn4Tbm:op:0m98cm<8m3uG!TgpvSnD7LnN3pfUgbnxZm=q
 mFV$Ugb!4m@TpcRmDNem64mDHTnXmm;gemLz$Gm@T%Vm4im?cnt`oFBo3;!4mEbmV8Lmd8grDTTpsep4nem:NmWNoQ0mNggc$Gm
 c_pyFmDQImDNgpHhm32m;HmY6qi3bmQqebmPyq0qmwXmSXm=QLmWmm=Nm6y@FD92n4w%Vq4ZnFBmMA3n:B$UmIkn>ZmT<po<m`P
 *NmcomqbencJm9XmM>m<_m?gn`lGepDBf!4cf)DmU@nRnGcg+Gcg*8mtEUn:Xceq]jLeem3Ugm0q)Im^sn6i$PqzIp<O(nwhcg(
 UcbqwFm9Yn5km^ub&7oFBw@Lrnq@mO>r:<rYT$UmWpenAumQhe)rw2es89Lm@4mC5enkZpiup`sn0TmDk@FDCFcop4UozQNAA@F
 DF0p4_ USED AS KORANIC%8!EwIXDhQALAccp;hccAKBARccMOHAMMADcmB=MccRASOULcc]GccWAp?bmCSwM_Bm6IJm1VJALA
 LOUHOUaRIAL!EpyfBISMIm:] AR-wMe<Nm2?EEMcSUBwFWZHpcP pN]AZZpR0 mBmavX0f-1/8bm2s0/6a~O&W(E!7&Neb,6f(K
 %8e)Ne:Ye)0!Seb)JetyDj%Ye!Gm1wBRAKCETe$3]Y@FE20a&V)F!H$TcbuYkqM%B!Hdm2^&2!Hm4jCONJOtops&2bm9y!VcuZ@
 @m9wm2>&2m2?m:FwUaVm;BmB]mVj!Iv9OzeEM)ZebENe$M%2ec=CequXeb!GeurA[ec!GebtytSedm2]tz1dm2bM(Dm2^c!Hm9Z
 ,Em2=cmhJm64aSESAME!Oac!UmM4H$WmDka?4^WabuA4nuLcTb=Cac!Ma?4mPqacm5vc=Ca!C&Nbb,6bn6q@FE54vigF)JwR:om
 _ev85tm[ubmoem[vbd!GvQ1t>0b*Mu^Ut_Rb%QvQ60Sbb(S@FE68uNFE>4m4y^Yb]OAT@FEwD^g[Bo9owDA1rrdKb]Um4Y&4FRA
 uvfsb]8m3sm;R6bc;Ect;?o;4$Hm2?Im2@[1m2@?Pm2@!B(F$HcwON4gq>eb(Ft<gfp5t5!Am3ZwOSQm3WGm72gq0@t<ibt<Fy*
 t=2TwLzBt<Ebm7F:1m44$Um45Lm44%Vm44.MmLmTt=qc)Tm2@.Im4MDm=:+Gm44)6m[`8m7xmP^ZAHm4D(m8=+Zm?xmi=)Im?hm
 m5&7m44!4m7x3m?hm7y5mmmt92:m2_mlZt=14q[Rnc<t=BjgncYt=GIn^kibt7u^fb!o:eFFav=1ev<AL@FF01aFULLm5`u8=7:
 WoQ0b>4oHioRe=Eo]5oUK&NoUwohRb*vXX8tIT3onF:Yo`v(Soaioqjo]rbuqHvuq<puq<ppGaop3uR5aw_MppD]wCS`uqjmmD7
 mD7pDPv=f:!Gm2^%BpnBUu_IHHALFmtS,6miqpojpO1,6&Nb;J!8!Oc!BWOd!CtQ<ieYAeYUeYOeTUbu0Eam;BBAdvW2CKAvfJ8
 UvfL4OdSAtxFYtF5wOdTAdTIdTUdTEtxJPAtFD0UtFEwOtxM>AtFORUtFQNOdYvejXtxQdvfg1cu1eAb<V=mYw=Wd|Md~Bd=6d_
 Yd_Zd>Sd|Pd>Id|Bd|Cd|Dd|Ed~Rd~Qd|Ad=2d>Fd|Nd_3d>Od|Od<Yd<Qd|Ld=Ld=Vd>Qd>Ed=S@FFC2dAdAEmOlAEdEOdEm4i
 AdYEvfAsmPAWAEdOm5>D2mWJUdWEOtFZ6YUm4yAdEUdYIdI@FFE0o8_ wm9pbwHBUbb&Db&2b]K$YbYENm5NWONm;B8nJNv>boS
 $S!7bu``G$Kbua1pJb!R$WuQEB@FFF9uOVrue=W tzY8ui`3c+FcTERwC[aaOv;=s REv0F4qdc=Kabm3I"

end Componentry.Text.CharacterName
